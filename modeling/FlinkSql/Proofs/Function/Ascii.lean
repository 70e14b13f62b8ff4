import FlinkSql.Proofs.Expr.Neutral
import FlinkSql.Proofs.Function.Template
import FlinkSql.Proofs.Text.AsciiLiteral

/-!
# Calls outside strings

The standard registry writes pieces from pieces, so a call is ASCII outside strings if its arguments are.
-/

namespace FlinkSql

open Text

namespace Template

/-- A filled template is a piece, if the arguments are. -/
theorem asciiPiece_fill {template : String} (h : template ∈ Registry.templates) {a : Arguments}
    (ha : ∀ t ∈ a.rendered, AsciiPiece t) : Written AsciiPiece (fill template a) := by
  have htemplates : ∀ template ∈ Registry.templates, template.toList.all isAsciiUnquoted = true := by decide +kernel
  refine Outcome.intro (fun text htext => ?_) fun f hf => (written_fill template a).failure hf
  obtain ⟨ps, hspells, -, rfl⟩ := fill_eq_ok_iff.mp htext
  rw [AsciiPiece, ReadsAscii, String.toList_ofList]
  refine readAscii_flatMap fun piece hpiece => ?_
  cases piece with
  | char c =>
    have hc := List.all_eq_true.mp (htemplates template h) c (hspells.mem_of_char hpiece)
    exact readAscii_of_unquoted (List.forall_mem_singleton.mpr hc)
  | slot digits =>
    rw [Piece.filled]
    cases hslot : a.rendered[Number.ofDigits digits]? with
    | none => rfl
    | some t => exact ha t (List.mem_of_getElem? hslot)
  | broken => rfl

end Template

theorem asciiPiece_of_isWord {word : String} (h : Registry.isWord word = true) : AsciiPiece word :=
  asciiPiece_of_lead fun c hc => isLead_of_isWordChar (List.all_eq_true.mp h c hc)

/-- A test against a literal pattern. -/
theorem asciiPiece_likeLiteral {receiver : String} (h : AsciiPiece receiver) (pattern : List Char) (before after : Bool) :
    AsciiPiece ("(" ++ receiver ++ " LIKE '" ++ Like.wildcard before ++ String.ofList (Like.escaped pattern) ++
      Like.wildcard after ++ "' ESCAPE '" ++ String.singleton Like.escape ++ "')") := by
  have hwildcard : ∀ wanted, ReadsAscii (some singleQuote) (Like.wildcard wanted) (some singleQuote) := by
    intro wanted
    cases wanted <;> rfl
  have hopen : AsciiPiece "(" := rfl
  have hlike : ReadsAscii none " LIKE '" (some singleQuote) := rfl
  have hpattern : ReadsAscii (some singleQuote) (String.ofList (Like.escaped pattern)) (some singleQuote) := by
    rw [ReadsAscii, String.toList_ofList]
    exact stringPiece_escaped pattern
  have hescape : ReadsAscii (some singleQuote) "' ESCAPE '" (some singleQuote) := rfl
  have hcharacter : ReadsAscii (some singleQuote) (String.singleton Like.escape) (some singleQuote) := rfl
  have hclose : ReadsAscii (some singleQuote) "')" none := rfl
  have htest := (((ReadsAscii.append (hopen.append h) hlike).append (hwildcard before)).append hpattern).append (hwildcard after)
  exact ((htest.append hescape).append hcharacter).append hclose

/-- The rules of the standard registry write pieces from pieces. -/
theorem Registry.kept_asciiPiece : Registry.Kept AsciiPiece where
  rename word texts hword htexts := by
    have hopen : AsciiPiece "(" := rfl
    have hcomma : AsciiPiece ", " := rfl
    have hclose : AsciiPiece ")" := rfl
    exact (((asciiPiece_of_isWord hword).append hopen).append (hcomma.intercalate htexts)).append hclose
  template template h a ha := Template.asciiPiece_fill h ha
  likeLiteral receiver pattern before after h := asciiPiece_likeLiteral h pattern before after
  likeComputed receiver parts h hparts := by
    have hopen : AsciiPiece "(" := rfl
    have hlike : AsciiPiece " LIKE CONCAT(" := rfl
    have hcomma : AsciiPiece ", " := rfl
    have hclose : AsciiPiece "))" := rfl
    have hpieces : ∀ part ∈ parts, AsciiPiece part := by
      intro part hpart
      rcases hparts part hpart with h | rfl
      · exact h
      · exact rfl
    exact (((hopen.append h).append hlike).append (hcomma.intercalate hpieces)).append hclose
  offset n := Number.asciiPiece_int n
  computedOffset text h := by
    have hopen : AsciiPiece "(" := rfl
    have hclose : AsciiPiece " + 1)" := rfl
    exact (hopen.append h).append hclose
  rest text start h hstart := by
    have hopen : AsciiPiece "SUBSTRING(" := rfl
    have hfrom : AsciiPiece " FROM " := rfl
    have hclose : AsciiPiece ")" := rfl
    exact (((hopen.append h).append hfrom).append hstart).append hclose
  part text start length h hstart hlength := by
    have hopen : AsciiPiece "SUBSTRING(" := rfl
    have hfrom : AsciiPiece " FROM " := rfl
    have hfor : AsciiPiece " FOR " := rfl
    have hclose : AsciiPiece ")" := rfl
    exact (((((hopen.append h).append hfrom).append hstart).append hfor).append hlength).append hclose
  unit name hname unit hunit first second hfirst hsecond := by
    have hword : ∀ word ∈ ["TIMESTAMPDIFF", "TIMESTAMPADD"] ++ TimeUnit.all, isWord word = true := by
      decide +kernel
    have hname := asciiPiece_of_isWord (hword name (List.mem_append_left _ hname))
    have hunit := asciiPiece_of_isWord (hword unit (List.mem_append_right _ hunit))
    have hopen : AsciiPiece "(" := rfl
    have hcomma : AsciiPiece ", " := rfl
    have hclose : AsciiPiece ")" := rfl
    exact ((((((hname.append hopen).append hunit).append hcomma).append hfirst).append hcomma).append hsecond).append hclose

end FlinkSql
