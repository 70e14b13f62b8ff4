import FlinkSql.Proofs.Function.Accepted

/-!
# What a template stands for

A template is characters other than an opening brace and placeholders, a number in braces, one after the other. `Spells` says so
without a scanner: it relates the pieces to the text in which they are spelled. There is at most one way to read a text so,
and the scanner finds it where there is one. A template is filled exactly if it can be read and each number in it is that of an
argument; the arguments then stand verbatim for the placeholders.
-/

namespace FlinkSql

namespace Template

/-- The text in which pieces are spelled, one after the other. -/
inductive Spells : List Piece → List Char → Prop
  | nil : Spells [] []
  /-- A character other than an opening brace is spelled as itself. -/
  | char {c : Char} {pieces : List Piece} {text : List Char} (hc : c ≠ '\x7b') (h : Spells pieces text) :
    Spells (.char c :: pieces) (c :: text)
  /-- A placeholder is spelled as its ASCII digits, one or more, in braces. -/
  | slot {digits : List Char} {pieces : List Piece} {text : List Char} (hne : digits ≠ [])
    (hdigits : ∀ d ∈ digits, d.isDigit = true) (h : Spells pieces text) :
    Spells (.slot digits :: pieces) ('\x7b' :: digits ++ '\x7d' :: text)

/-- A character piece is spelled as a character of the text. -/
theorem Spells.mem_of_char {pieces : List Piece} {text : List Char} {c : Char} (h : Spells pieces text) (hc : .char c ∈ pieces) :
    c ∈ text := by
  induction h with
  | nil => cases hc
  | char _ _ ih =>
    rcases List.mem_cons.mp hc with hself | hrest
    · cases hself
      exact List.mem_cons_self
    · exact List.mem_cons_of_mem _ (ih hrest)
  | slot _ _ _ ih =>
    rcases List.mem_cons.mp hc with hself | hrest
    · cases hself
    · exact List.mem_append_right _ (List.mem_cons_of_mem _ (ih hrest))

/-- Within a placeholder, digits are read up to the closing brace. -/
theorem cut_digits {digits : List Char} (hdigits : ∀ d ∈ digits, d.isDigit = true) (before : List Char) (text : List Char)
    (hne : before.reverse ++ digits ≠ []) :
    cut (some before) (digits ++ '\x7d' :: text) = .slot (before.reverse ++ digits) :: cut none text := by
  induction digits generalizing before with
  | nil =>
    rw [List.append_nil] at hne ⊢
    have hbefore : before ≠ [] := fun h => hne (congrArg List.reverse h)
    rw [List.nil_append, cut, if_neg (by decide), if_pos ⟨rfl, hbefore⟩]
  | cons d digits ih =>
    obtain ⟨hd, hrest⟩ := List.forall_mem_cons.mp hdigits
    have hshift : (d :: before).reverse ++ digits = before.reverse ++ d :: digits := by
      rw [List.reverse_cons, List.append_assoc, List.singleton_append]
    rw [List.cons_append, cut, if_pos hd, ih hrest (d :: before) (hshift ▸ hne), hshift]

/-- What is spelled is cut into what it spells. -/
theorem Spells.cut_eq {pieces : List Piece} {text : List Char} (h : Spells pieces text) : cut none text = pieces := by
  induction h with
  | nil => rfl
  | char hc _ ih => rw [cut, if_neg hc, ih]
  | slot hne hdigits _ ih => rw [List.cons_append, cut, if_pos rfl, cut_digits hdigits [] _ hne, ih]; rfl

/-- Pieces that are spelled in a text are characters and placeholders. -/
theorem Spells.not_broken {pieces : List Piece} {text : List Char} (h : Spells pieces text) : .broken ∉ pieces := by
  induction h with
  | nil => exact List.not_mem_nil
  | char _ _ ih => exact List.not_mem_cons_of_ne_of_not_mem nofun ih
  | slot _ _ _ ih => exact List.not_mem_cons_of_ne_of_not_mem nofun ih

/-- A text in which no brace is left over spells the pieces it is cut into; within a placeholder, after its digits and the closing
brace. -/
theorem spells_cut (text : List Char) :
    (.broken ∉ cut none text → Spells (cut none text) text) ∧
    ∀ before, .broken ∉ cut (some before) text → ∃ digits rest pieces, text = digits ++ '\x7d' :: rest ∧
      (∀ d ∈ digits, d.isDigit = true) ∧ before.reverse ++ digits ≠ [] ∧
      cut (some before) text = .slot (before.reverse ++ digits) :: pieces ∧ Spells pieces rest := by
  induction text with
  | nil => exact ⟨fun _ => .nil, fun before h => absurd List.mem_cons_self h⟩
  | cons c text ih =>
    obtain ⟨ihout, ihin⟩ := ih
    constructor
    · intro h
      rw [cut] at h ⊢
      split at h
      · rename_i hc
        obtain ⟨digits, rest, pieces, rfl, hdigits, hne, hcut, hspells⟩ := ihin [] h
        rw [if_pos hc, hcut, hc]
        exact .slot hne hdigits hspells
      · rename_i hc
        rw [if_neg hc]
        exact .char hc (ihout fun hmem => h (List.mem_cons_of_mem _ hmem))
    · intro before h
      rw [cut] at h ⊢
      split at h
      · rename_i hdigit
        obtain ⟨digits, rest, pieces, rfl, hdigits, hne, hcut, hspells⟩ := ihin (c :: before) h
        have hshift : (c :: before).reverse ++ digits = before.reverse ++ c :: digits := by
          rw [List.reverse_cons, List.append_assoc, List.singleton_append]
        rw [hshift] at hne hcut
        rw [if_pos hdigit]
        exact ⟨c :: digits, rest, pieces, rfl, List.forall_mem_cons.mpr ⟨hdigit, hdigits⟩, hne, hcut, hspells⟩
      · rename_i hdigit
        split at h
        · rename_i hclose
          obtain ⟨rfl, hbefore⟩ := hclose
          have hne : before.reverse ++ [] ≠ [] := by
            rw [List.append_nil]
            exact fun hnil => hbefore (List.reverse_eq_nil_iff.mp hnil)
          rw [if_neg hdigit, if_pos ⟨rfl, hbefore⟩]
          have hrest := ihout fun hmem => h (List.mem_cons_of_mem _ hmem)
          refine ⟨[], text, cut none text, rfl, List.forall_mem_nil _, hne, ?_, hrest⟩
          rw [List.append_nil]
        · exact absurd List.mem_cons_self h

/-- A text spells the pieces it is cut into, if no brace is left over, and no others. -/
theorem spells_iff {pieces : List Piece} {text : List Char} :
    Spells pieces text ↔ cut none text = pieces ∧ .broken ∉ pieces := by
  constructor
  · intro h
    exact ⟨h.cut_eq, h.not_broken⟩
  · rintro ⟨rfl, h⟩
    exact (spells_cut text).1 h

/-- What stands for a piece when so many arguments are filled in. -/
def Piece.filled (rendered : List String) : Piece → List Char
  | .char c => [c]
  | .slot digits => (rendered[Number.ofDigits digits]?.getD "").toList
  | .broken => []

variable {a : Arguments}

theorem argument_of_fits (template : String) {digits : List Char} (h : (Piece.slot digits).Fits a.rendered.length) :
    argument template a digits = .ok (a.rendered[Number.ofDigits digits]?.getD "") := by
  obtain ⟨hindex, hword⟩ := h
  have hget : a.rendered[Number.ofDigits digits]? = some a.rendered[Number.ofDigits digits] := List.getElem?_eq_getElem hindex
  rw [argument, if_neg (Nat.not_le.mpr hword), Arguments.sql, hget]
  rfl

/-- Pieces that fit are filled one after the other. -/
theorem fillPieces_of_fits (template : String) {pieces : List Piece} (h : ∀ piece ∈ pieces, piece.Fits a.rendered.length) :
    fillPieces template a pieces = .ok (pieces.flatMap (Piece.filled a.rendered)) := by
  induction pieces with
  | nil => rfl
  | cons piece rest ih =>
    obtain ⟨hpiece, hrest⟩ := List.forall_mem_cons.mp h
    cases piece with
    | char c =>
      rw [fillPieces, ih hrest]
      rfl
    | slot digits =>
      rw [fillPieces, argument_of_fits template hpiece, ih hrest]
      rfl
    | broken => exact absurd hpiece id

/-- Only characters and placeholders fit. -/
theorem not_broken_of_fits {count : Nat} {pieces : List Piece} (h : ∀ piece ∈ pieces, piece.Fits count) : .broken ∉ pieces :=
  fun hmem => h .broken hmem

/-- A template is filled exactly if it can be read with numbers of arguments only, and then with the arguments verbatim. -/
theorem fill_eq_ok_iff {template text : String} : fill template a = .ok text ↔
    ∃ pieces, Spells pieces template.toList ∧ (∀ piece ∈ pieces, piece.Fits a.rendered.length) ∧
      text = String.ofList (pieces.flatMap (Piece.filled a.rendered)) := by
  constructor
  · intro h
    have hfits := succeeds_fill_iff.mp ⟨text, h⟩
    refine ⟨pieces template, spells_iff.mpr ⟨rfl, not_broken_of_fits hfits⟩, hfits, ?_⟩
    rw [fill, fillPieces_of_fits template hfits] at h
    exact (Except.ok.inj h).symm
  · rintro ⟨ps, hspells, hfits, rfl⟩
    rw [fill, pieces, hspells.cut_eq, fillPieces_of_fits template hfits]
    rfl

end Template

open Template in
/-- A call that is written by a template. It succeeds exactly if the template is spelled of characters other than an opening brace
and of placeholders with ASCII digits, each the number of an argument that is there; its text is then the template with the
arguments verbatim in place of the placeholders. Otherwise the call is unsupported, and there is no text. A number must fit a word
too, which says nothing more of one below the number of arguments, as long as a word counts them. -/
theorem Registry.write_template {r : Registry} {a : Arguments} {template : String}
    (hrule : r.rule? a.call.shape = some (.template template)) :
    (∀ text, r.write a = .ok text ↔
      ∃ pieces, Spells pieces template.toList ∧ (∀ piece ∈ pieces, piece.Fits a.rendered.length) ∧
        text = String.ofList (pieces.flatMap (Piece.filled a.rendered))) ∧
    ((¬∃ pieces, Spells pieces template.toList ∧ ∀ piece ∈ pieces, piece.Fits a.rendered.length) →
      ∃ failure, r.write a = .error failure ∧ failure.kind = .unsupported) ∧
    (a.rendered.length ≤ UInt64.size →
      ∀ digits, (Piece.slot digits).Fits a.rendered.length ↔ Number.ofDigits digits < a.rendered.length) := by
  have hwrite : r.write a = fill template a := by rw [write, hrule]
  rw [hwrite]
  refine ⟨fun text => fill_eq_ok_iff, fun hno => ?_, fun hcount digits => ?_⟩
  case refine_2 => exact and_iff_left_of_imp fun hindex => hindex.trans_le hcount
  cases h : fill template a with
  | ok text =>
    obtain ⟨pieces, hspells, hfits, -⟩ := fill_eq_ok_iff.mp h
    exact absurd ⟨pieces, hspells, hfits⟩ hno
  | error failure => exact ⟨failure, rfl, (written_fill template a).failure h⟩

open Template in
/-- Two placeholders side by side and a closing brace of its own; the placeholder in the first argument stays a text. -/
theorem Registry.write_template_adjacent :
    let a : Arguments := ⟨⟨⟨.flink, "pair"⟩, none, [.literal .null, .literal .null]⟩, ["'\x7b1\x7d'", "NULL"]⟩
    let r := Registry.empty.insert a.call.shape (.template "\x7b0\x7d\x7b01\x7d\x7d")
    r.rule? a.call.shape = some (.template "\x7b0\x7d\x7b01\x7d\x7d") ∧ r.write a = .ok "'\x7b1\x7d'NULL\x7d" := by
  intro a r
  have hrule : r.rule? a.call.shape = some (.template "\x7b0\x7d\x7b01\x7d\x7d") := rfl
  refine ⟨hrule, ((write_template hrule).1 _).mpr ⟨[.slot ['0'], .slot ['0', '1'], .char '\x7d'], ?_, ?_, ?_⟩⟩
  · exact spells_iff.mpr (by decide)
  · decide
  · decide

end FlinkSql
