import FlinkSql.Proofs.Function.Standard
import FlinkSql.Proofs.Name
import FlinkSql.Proofs.Number.Numeral

/-!
# What is written as a window bound

Two columns stand for the bounds of a window. The calls of their markers are written as their names, whatever they are called on, and
nothing else is: the text of any other expression ends in a character with which neither name ends.
-/

namespace FlinkSql

open Text

/-- The markers for window bounds, each with the column that it stands for. -/
def windowBounds : List (String × String) := [("start", "window_start"), ("end", "window_end")]

/-- Whether an expression is the call of the marker with a name. -/
def Expr.isMarker (name : String) : Expr → Bool
  | .call f _ args => f == ⟨.window, name⟩ && args.isEmpty
  | _ => false

/-! ## The end of a text -/

/-- The characters with which the names of window bounds end. -/
def boundEnds : List Char := ['t', 'd']

/-- A text that ends in another character. -/
def EndsOtherwise (text : String) : Prop := ∃ c, text.toList.getLast? = some c ∧ c ∉ boundEnds

/-- What ends otherwise does so behind any text. -/
theorem EndsOtherwise.append (s : String) {t : String} (h : EndsOtherwise t) : EndsOtherwise (s ++ t) := by
  obtain ⟨c, hlast, hc⟩ := h
  refine ⟨c, ?_, hc⟩
  rw [String.toList_append, List.getLast?_append, hlast]
  rfl

/-- A text that ends otherwise is no bound of a window. -/
theorem EndsOtherwise.ne_bound {text : String} (h : EndsOtherwise text) {bound : String × String} (hbound : bound ∈ windowBounds) :
    text ≠ bound.2 := by
  obtain ⟨c, hlast, hc⟩ := h
  have hends : ∀ bound ∈ windowBounds, bound.2.toList.getLast?.all (· ∈ boundEnds) = true := by decide
  intro hsame
  have hbad := hends bound hbound
  rw [← hsame, hlast, Option.all_some] at hbad
  exact hc (of_decide_eq_true hbad)

/-- A closing parenthesis ends most of what is written. -/
theorem endsOtherwise_parenthesis : EndsOtherwise ")" := ⟨')', rfl, by decide⟩

/-- A number ends in no letter of the bounds. -/
theorem endsOtherwise_of_numeral {text : String} (h : Number.Numeral text.toList) : EndsOtherwise text := by
  have hnumeric : ∀ c : Char, Number.isNumeric c = true → c ∉ boundEnds := by
    have hends : boundEnds.all (!Number.isNumeric ·) = true := by decide
    intro c hc hmem
    have hbad := List.all_eq_true.mp hends c hmem
    rw [hc] at hbad
    cases hbad
  have hmagnitude : ∀ {s : List Char}, Number.Magnitude s → ∃ c, s.getLast? = some c ∧ c ∉ boundEnds := by
    intro s hs
    refine ⟨_, List.getLast?_eq_getLast_of_ne_nil hs.nonempty, hnumeric _ (hs.numeric _ (List.getLast_mem _))⟩
  unfold EndsOtherwise
  generalize text.toList = s at h
  cases h with
  | positive h => exact hmagnitude h
  | negative h =>
    obtain ⟨c, hlast, hc⟩ := hmagnitude h
    refine ⟨c, ?_, hc⟩
    rw [List.getLast?_cons, hlast]
    rfl

/-! ## Templates -/

namespace Template

/-- The character that stands for itself. -/
def Piece.char? : Piece → Option Char
  | .char c => some c
  | .slot _ => none
  | .broken => none

/-- The character with which pieces end. -/
def lastChar? (pieces : List Piece) : Option Char := pieces.getLast?.bind Piece.char?

/-- Filled pieces end as the pieces do. -/
theorem getLast?_fillPieces {template : String} {a : Arguments} {pieces : List Piece} {c : Char} {text : List Char}
    (hlast : lastChar? pieces = some c) (h : fillPieces template a pieces = .ok text) : text.getLast? = some c := by
  induction pieces generalizing text with
  | nil => cases hlast
  | cons piece rest ih =>
    cases rest with
    | nil =>
      cases piece with
      | char d =>
        cases hlast
        cases h
        rfl
      | slot digits => cases hlast
      | broken => cases hlast
    | cons next rest =>
      have hlater : lastChar? (next :: rest) = some c := by rwa [lastChar?, List.getLast?_cons_cons] at hlast
      cases piece with
      | char d =>
        obtain ⟨tail, htail, h⟩ := bind_eq_ok.mp h
        cases h
        rw [List.getLast?_cons, ih hlater htail]
        rfl
      | slot digits =>
        obtain ⟨part, -, h⟩ := bind_eq_ok.mp h
        obtain ⟨tail, htail, h⟩ := bind_eq_ok.mp h
        cases h
        rw [List.getLast?_append, ih hlater htail]
        rfl
      | broken => cases h

/-- Pieces without placeholders are filled with themselves. -/
theorem fillPieces_chars (template : String) (a : Arguments) (cs : List Char) : fillPieces template a (cs.map .char) = .ok cs := by
  induction cs with
  | nil => rfl
  | cons c cs ih =>
    rw [List.map_cons, fillPieces, ih]
    rfl

/-- The names of window bounds are templates without placeholders. -/
theorem fill_bound {bound : String × String} (hbound : bound ∈ windowBounds) (a : Arguments) : fill bound.2 a = .ok bound.2 := by
  have hpieces : ∀ bound ∈ windowBounds, pieces bound.2 = bound.2.toList.map .char := by decide
  rw [fill, hpieces bound hbound, fillPieces_chars]
  exact congrArg Except.ok String.ofList_toList

/-- The other templates of the standard registry end in a character of their own. -/
theorem lastChar?_templates : ∀ template ∈ Registry.templates, template ∉ windowBounds.map (·.2) →
    (lastChar? (pieces template)).any (· ∉ boundEnds) = true := by
  decide +kernel

/-- A template other than those of the bounds ends otherwise, whatever is filled in. -/
theorem endsOtherwise_fill {template text : String} {a : Arguments} (hmem : template ∈ Registry.templates)
    (hother : template ∉ windowBounds.map (·.2)) (h : fill template a = .ok text) : EndsOtherwise text := by
  obtain ⟨c, hlast, hc⟩ := (Option.any_eq_true _ _).mp (lastChar?_templates template hmem hother)
  obtain ⟨chars, hchars, h⟩ := bind_eq_ok.mp h
  cases h
  exact ⟨c, by rw [String.toList_ofList, getLast?_fillPieces hlast hchars], by simpa using hc⟩

end Template

/-! ## Calls -/

namespace Registry

variable {a : Arguments} {text : String}

/-- A text in parentheses ends with one. -/
theorem IsBracketed.endsOtherwise (h : IsBracketed text) : EndsOtherwise text := by
  obtain ⟨word, inside, -, rfl⟩ := h
  exact endsOtherwise_parenthesis.append _

/-- A call ends otherwise, unless the name of a window bound is its template. -/
theorem endsOtherwise_write (h : standard.write a = .ok text) :
    EndsOtherwise text ∨ ∃ bound ∈ windowBounds, standard.rule? a.call.shape = some (.template bound.2) ∧ text = bound.2 := by
  rcases write_cases h with hbracketed | ⟨template, hmem, hrule, h⟩
  · exact Or.inl hbracketed.endsOtherwise
  · by_cases hname : template ∈ windowBounds.map (·.2)
    · obtain ⟨bound, hbound, rfl⟩ := List.mem_map.mp hname
      rw [Template.fill_bound hbound] at h
      exact Or.inr ⟨bound, hbound, hrule, (Except.ok.inj h).symm⟩
    · exact Or.inl (Template.endsOtherwise_fill hmem hname h)

/-- The names of window bounds are the templates of the calls of their markers, and of no others. -/
theorem template_bound_iff : ∀ entry ∈ standard.rules, ∀ bound ∈ windowBounds,
    entry.2.template? = some bound.2 ↔ entry.1 = ⟨⟨.window, bound.1⟩, 0⟩ := by
  decide +kernel

/-- The markers of a window are written by the templates of the bounds. -/
theorem rule?_marker {bound : String × String} (hbound : bound ∈ windowBounds) :
    standard.rule? ⟨⟨.window, bound.1⟩, 0⟩ = some (.template bound.2) := by
  simp only [windowBounds, List.mem_cons, List.not_mem_nil, or_false] at hbound
  rcases hbound with rfl | rfl <;> rfl

/-- A call is written as a window bound exactly if it is the call of its marker. -/
theorem write_eq_bound_iff (h : standard.write a = .ok text) {bound : String × String} (hbound : bound ∈ windowBounds) :
    text = bound.2 ↔ a.call.shape = ⟨⟨.window, bound.1⟩, 0⟩ := by
  constructor
  · intro hsame
    rcases endsOtherwise_write h with hends | ⟨other, -, hrule, htext⟩
    · exact absurd hsame (hends.ne_bound hbound)
    · rw [← htext, hsame] at hrule
      exact (template_bound_iff _ (mem_of_rule? hrule) bound hbound).mp rfl
  · intro hshape
    unfold write at h
    rw [hshape, rule?_marker hbound] at h
    exact Except.ok.inj (h.symm.trans (Template.fill_bound hbound a))

end Registry

/-! ## Expressions -/

/-- A literal is not written as a bound. -/
theorem Literal.endsOtherwise_sql {v : Literal} {text : String} (h : v.sql = .ok text) : EndsOtherwise text := by
  cases v with
  | null =>
    cases h
    exact ⟨'L', rfl, by decide⟩
  | boolean b =>
    cases b with
    | true | false =>
      cases h
      exact ⟨'E', rfl, by decide⟩
  | integer n =>
    cases h
    exact endsOtherwise_of_numeral (Number.numeral_int _)
  | float x =>
    rw [Literal.sql] at h
    split at h
    · rename_i hfinite
      cases h
      exact endsOtherwise_of_numeral (Number.numeral_numberText hfinite)
    · cases h
  | decimal d =>
    rw [Literal.sql] at h
    split at h
    · rename_i hdecimal
      cases h
      exact endsOtherwise_of_numeral (Literal.numeral_of_isDecimal hdecimal)
    · cases h
  | string s =>
    cases h
    refine ⟨singleQuote, ?_, by decide⟩
    rw [quotedString, quoted, String.toList_ofList, List.getLast?_concat]
  | timestamp t =>
    cases h
    exact EndsOtherwise.append _ ⟨singleQuote, rfl, by decide⟩

namespace Expr

variable {aliases : Aliases} {e : Expr} {text : String}

/-- A column ends with a backtick. -/
theorem endsOtherwise_quotedColumn (name : String) : EndsOtherwise (Name.quotedColumn name) :=
  ⟨backtick, by rw [Name.toList_quotedColumn, List.getLast?_concat], by decide⟩

/-- What is no call ends otherwise. -/
theorem endsOtherwise_sql {functions : Registry} (hcall : ∀ f receiver args, e ≠ .call f receiver args)
    (h : e.sql functions aliases = .ok text) : EndsOtherwise text := by
  cases e using sqlCases with
  | literal v =>
    rw [Expr.sql] at h
    exact Literal.endsOtherwise_sql h
  | column p name =>
    rw [Expr.sql] at h
    obtain ⟨source, -, h⟩ := bind_eq_ok.mp h
    cases h
    exact (endsOtherwise_quotedColumn name).append _
  | call f receiver args => exact absurd rfl (hcall f receiver args)
  | form e form hform =>
    obtain ⟨texts, -, rfl⟩ := eq_of_form hform h
    have hclosings : ∀ words ∈ closings, EndsOtherwise words :=
      List.forall_mem_cons.mpr ⟨endsOtherwise_parenthesis, List.forall_mem_singleton.mpr ⟨'D', rfl, by decide⟩⟩
    exact (hclosings _ (isKnown_of_form hform).closing).append _
  | unwritten e failure _ hnone => cases (hnone functions aliases).symm.trans h

/-- An expression is written as a window bound exactly if it is the call of its marker. -/
theorem sql_eq_bound_iff (h : e.sql .standard aliases = .ok text) {bound : String × String} (hbound : bound ∈ windowBounds) :
    text = bound.2 ↔ e.isMarker bound.1 = true := by
  by_cases hform : ∃ f receiver args, e = .call f receiver args
  · obtain ⟨f, receiver, args, rfl⟩ := hform
    rw [sql_call] at h
    obtain ⟨rendered, -, h⟩ := bind_eq_ok.mp h
    rw [Registry.write_eq_bound_iff h hbound]
    simp [isMarker, Call.shape]
  · have hcall : ∀ f receiver args, e ≠ .call f receiver args := fun f receiver args heq => hform ⟨f, receiver, args, heq⟩
    have hmarker : e.isMarker bound.1 = false := by
      cases e with
      | call f receiver args => exact absurd rfl (hcall f receiver args)
      | _ => rfl
    rw [hmarker]
    exact iff_of_false ((endsOtherwise_sql hcall h).ne_bound hbound) Bool.false_ne_true

end Expr

end FlinkSql
