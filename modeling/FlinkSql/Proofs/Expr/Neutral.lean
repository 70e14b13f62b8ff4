import FlinkSql.Proofs.Function.Standard
import FlinkSql.Proofs.Text.Unmarked

/-!
# The SQL of an expression is neutral

Whatever texts a caller puts into an expression, its SQL leaves the reading of the statement around it as it is. Each form of
expressions and each rule of the standard registry keeps to that, and the induction of `Expr.Kept.sql` does the rest.
-/

namespace FlinkSql

open Text

/-! ## Templates -/

namespace Template

/-- Reads pieces with placeholders that change nothing. A placeholder inside a quoted region is refused. -/
def readPieces (r : Reader) : List Piece → Option Reader
  | [] => some r
  | .char c :: rest => (r.next c).bind fun r => readPieces r rest
  | .slot _ :: rest => if r.region = none then readPieces r rest else none
  | .broken :: _ => none

/-- Reading filled pieces is reading the pieces, if the arguments are neutral. -/
theorem fillPieces_reads {template : String} {a : Arguments} (ha : ∀ t ∈ a.rendered, Neutral t) {r r' : Reader}
    {pieces : List Piece} (h : readPieces r pieces = some r') :
    Outcome Failure.IsUnsupported (fun text => r.read text = some r') (fillPieces template a pieces) := by
  induction pieces generalizing r with
  | nil => exact h
  | cons piece rest ih =>
    cases piece with
    | char c =>
      obtain ⟨r₁, hnext, hrest⟩ := Option.bind_eq_some_iff.mp h
      refine (ih hrest).bind fun tail htail => ?_
      show r.read (c :: tail) = some r'
      rw [Reader.read, hnext]
      exact htail
    | slot digits =>
      rw [readPieces] at h
      split at h
      · rename_i hregion
        refine (Registry.written_placeholder ha template digits).bind fun text htext => (ih h).bind fun tail htail => ?_
        obtain ⟨region, brackets⟩ := r
        cases hregion
        show (⟨none, brackets⟩ : Reader).read (text.toList ++ tail) = some r'
        rw [Reader.read_append, show _ = _ from htext.shifts brackets]
        exact htail
      · cases h
    | broken => cases h

/-- No template of the standard registry leaves a bracket or a quoted region open, or has a placeholder between quotes. -/
theorem readPieces_templates :
    ∀ template ∈ Registry.templates, readPieces ⟨none, []⟩ (pieces template) = some ⟨none, []⟩ := by
  decide +kernel

theorem fill_neutral {template : String} (h : template ∈ Registry.templates) {a : Arguments}
    (ha : ∀ t ∈ a.rendered, Neutral t) : Written Neutral (fill template a) := by
  refine (fillPieces_reads ha (readPieces_templates template h)).bind fun text htext => ?_
  show (⟨none, []⟩ : Reader).read (String.ofList text).toList = _
  rw [String.toList_ofList]
  exact htext

end Template

/-! ## Patterns -/

/-- A literal pattern does not end the region that it stands in: its quotes are doubled, and the escape character is none. -/
theorem Like.held_escaped (pattern : List Char) : Held (String.ofList (escaped pattern)) := by
  intro b
  rw [Reads, String.toList_ofList]
  induction pattern with
  | nil => rfl
  | cons c pattern ih =>
    have hcons : escaped (c :: pattern) = escapedChar c ++ escaped pattern := rfl
    have hchar : (⟨some singleQuote, b⟩ : Reader).read (escapedChar c) = some ⟨some singleQuote, b⟩ := by
      unfold escapedChar
      split_ifs with hwild hquote
      · rcases hwild with rfl | rfl | rfl <;> rfl
      · rfl
      · simp [Reader.read, Reader.next, nextRegion, hquote]
    rw [hcons, Reader.read_append, hchar]
    exact ih

theorem Like.held_wildcard (wanted : Bool) : Held (wildcard wanted) := by
  cases wanted <;> exact fun _ => rfl

/-! ## Calls -/

theorem neutral_of_isWord {word : String} (h : Registry.isWord word = true) : Neutral word := by
  rw [← String.ofList_toList (s := word)]
  exact Unmarked.neutral fun c hc => not_mark_of_class (by decide) (List.all_eq_true.mp h c hc)

/-- A call: a word with texts between parentheses. -/
theorem neutral_call {word : String} {texts : List String} (hword : Neutral word) (h : ∀ t ∈ texts, Neutral t) :
    Neutral (word ++ "(" ++ ", ".intercalate texts ++ ")") :=
  ((Shifts.append hword (opening [])).then (neutral_comma.intercalate h)).append (closing [])

/-- A test against a literal pattern. -/
theorem neutral_likeLiteral {receiver : String} (h : Neutral receiver) (pattern : List Char) (before after : Bool) :
    Neutral ("(" ++ receiver ++ " LIKE '" ++ Like.wildcard before ++ String.ofList (Like.escaped pattern) ++
      Like.wildcard after ++ "' ESCAPE '" ++ String.singleton Like.escape ++ "')") := by
  have hlike : Reads ⟨none, ['(']⟩ " LIKE '" ⟨some singleQuote, ['(']⟩ := rfl
  have hescape : Reads ⟨some singleQuote, ['(']⟩ "' ESCAPE '" ⟨some singleQuote, ['(']⟩ := rfl
  have hcharacter : Held (String.singleton Like.escape) := fun _ => rfl
  have hclose : Reads ⟨some singleQuote, ['(']⟩ "')" ⟨none, []⟩ := rfl
  have hpattern := (((Reads.append ((opening []).then h) hlike).append (Like.held_wildcard before _)).append
    (Like.held_escaped pattern _)).append (Like.held_wildcard after _)
  exact ((hpattern.append hescape).append (hcharacter _)).append hclose

/-- A test against a computed pattern. -/
theorem neutral_likeComputed {receiver : String} (h : Neutral receiver) {parts : List String}
    (hparts : ∀ part ∈ parts, Neutral part ∨ part = "'%'") :
    Neutral ("(" ++ receiver ++ " LIKE CONCAT(" ++ ", ".intercalate parts ++ "))") := by
  have hneutral : ∀ part ∈ parts, Neutral part := by
    intro part hpart
    rcases hparts part hpart with h | rfl
    · exact h
    · exact rfl
  have hlike : Shifts ['('] " LIKE CONCAT(" ['(', '('] := rfl
  have hclose : Shifts ['(', '('] "))" [] := rfl
  exact ((((opening []).then h).append hlike).then (neutral_comma.intercalate hneutral)).append hclose

/-- The rules of the standard registry write neutral texts from neutral texts. -/
theorem Registry.kept_neutral : Registry.Kept Neutral where
  rename word texts hword htexts := neutral_call (neutral_of_isWord hword) htexts
  template template h a ha := Template.fill_neutral h ha
  likeLiteral receiver pattern before after h := neutral_likeLiteral h pattern before after
  likeComputed receiver parts h hparts := neutral_likeComputed h hparts
  offset n := neutral_int n
  computedOffset text h := by
    have hclose : Shifts ['('] " + 1)" [] := rfl
    exact ((opening []).then h).append hclose
  rest text start h hstart := by
    have hopen : Shifts [] "SUBSTRING(" ['('] := rfl
    have hfrom : Neutral " FROM " := rfl
    exact (((hopen.then h).then hfrom).then hstart).append (closing [])
  part text start length h hstart hlength := by
    have hopen : Shifts [] "SUBSTRING(" ['('] := rfl
    have hfrom : Neutral " FROM " := rfl
    have hfor : Neutral " FOR " := rfl
    exact (((((hopen.then h).then hfrom).then hstart).then hfor).then hlength).append (closing [])
  unit name hname unit hunit first second hfirst hsecond := by
    have hword : ∀ word ∈ ["TIMESTAMPDIFF", "TIMESTAMPADD"] ++ TimeUnit.all, isWord word = true := by
      decide +kernel
    have hname := neutral_of_isWord (hword name (List.mem_append_left _ hname))
    have hunit := neutral_of_isWord (hword unit (List.mem_append_right _ hunit))
    have hopen := Shifts.append hname (opening [])
    exact (((((hopen.then hunit).then neutral_comma).then hfirst).then neutral_comma).then hsecond).append (closing [])

/-! ## Expressions -/

namespace Literal

/-- Every literal is written as a neutral text, if it is written. -/
theorem neutral_sql (v : Literal) : Written Neutral v.sql := by
  cases v with
  | null => exact (show Neutral "NULL" from rfl)
  | boolean value =>
    cases value with
    | true => exact (show Neutral "TRUE" from rfl)
    | false => exact (show Neutral "FALSE" from rfl)
  | integer n => exact neutral_int n.toInt
  | float x =>
    rw [sql]
    split
    · rename_i hfinite
      exact neutral_of_numeral (Number.numeral_numberText hfinite)
    · exact rfl
  | decimal d =>
    rw [sql]
    split
    · rename_i hdecimal
      exact neutral_of_numeral (numeral_of_isDecimal hdecimal)
    · exact rfl
  | string s => exact neutral_quotedString s
  | timestamp t =>
    have hopen : Reads ⟨none, []⟩ "TIMESTAMP '" ⟨some singleQuote, []⟩ := rfl
    have hclose : Reads ⟨some singleQuote, []⟩ "'" ⟨none, []⟩ := rfl
    exact (hopen.append (held_timestamp t [])).append hclose

end Literal

theorem neutral_tableAlias (index : Nat) : Neutral (tableAlias index) :=
  Neutral.append (show Neutral "t" from rfl) (neutral_nat index)

/-- The alias of a parameter is neutral if the one of the output row is. -/
theorem Aliases.neutral_resolve {aliases : Aliases} (h : ∀ output ∈ aliases.output, Neutral output) (p : Param) :
    Written Neutral (aliases.resolve p) := by
  unfold resolve
  split
  · split
    · exact neutral_tableAlias _
    · exact rfl
  · split
    · rename_i output houtput
      exact h output houtput
    · exact rfl

namespace Expr

/-- A member of a neutral text. -/
theorem neutral_memberSql {name : String} {form : MemberForm} (h : memberForm? name = some form) {text : String}
    (htext : Neutral text) : Neutral (memberSql form text) := by
  cases form with
  | length =>
    have hopen : Shifts [] "CHAR_LENGTH(" ['('] := rfl
    exact (hopen.then htext).append (closing [])
  | part part =>
    have hopen : Shifts [] "EXTRACT(" ['('] := rfl
    have hfrom : Neutral " FROM " := rfl
    have hpart : Neutral part := by
      unfold memberForm? at h
      split at h <;> cases h <;> rfl
    exact (((hopen.then hpart).then hfrom).then htext).append (closing [])

/-- The forms of expressions write neutral texts from neutral texts. -/
theorem kept_neutral {aliases : Aliases} (h : ∀ output ∈ aliases.output, Neutral output) :
    Kept .standard aliases Neutral where
  literal v := v.neutral_sql
  column p name := by
    refine (aliases.neutral_resolve h p).mono (fun _ hf => hf) fun source hsource => ?_
    have hdot : Neutral "." := rfl
    exact (hsource.append hdot).append (neutral_quotedName _)
  member name form text hform htext := neutral_memberSql hform htext
  not text htext := by
    have hopen : Shifts [] "(NOT " ['('] := rfl
    exact (hopen.then htext).append (closing [])
  negate text htext := by
    have hopen : Shifts [] "(-" ['('] := rfl
    exact (hopen.then htext).append (closing [])
  test op test text htest htext := by
    have htest : Neutral test := by
      unfold nullTest? at htest
      split at htest <;> cases htest <;> rfl
    exact ((((opening []).then htext).then neutral_blank).then htest).append (closing [])
  binary op l r hl hr := by
    have hop : Neutral op.sql := by cases op <;> rfl
    exact ((((((opening []).then hl).then neutral_blank).then hop).then neutral_blank).then hr).append (closing [])
  conditional test yes no htest hyes hno := by
    have hcase : Neutral "CASE WHEN " := rfl
    have hthen : Neutral " THEN " := rfl
    have helse : Neutral " ELSE " := rfl
    have hend : Neutral " END" := rfl
    exact (((((hcase.append htest).append hthen).append hyes).append helse).append hno).append hend
  coalesce l r hl hr := by
    have hopen : Shifts [] "COALESCE(" ['('] := rfl
    exact (((hopen.then hl).then neutral_comma).then hr).append (closing [])
  call _ ha := Registry.kept_neutral.write ha

/-- Whatever expression is written with the standard registry, its SQL is neutral. -/
theorem neutral_sql {aliases : Aliases} (h : ∀ output ∈ aliases.output, Neutral output) (e : Expr) :
    Written Neutral (e.sql .standard aliases) :=
  (kept_neutral h).sql e

end Expr

end FlinkSql
