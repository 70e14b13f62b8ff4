import FlinkSql.Text.Quoted
import Mathlib.Data.List.Basic

/-!
# Confined texts

A statement is read from left to right: `'` and a backtick open a quoted region that ends with the same character, and brackets
and semicolons count only outside such regions. A text is confined when this reading ends outside every region, each bracket is
closed by its own kind, and the only semicolon is the last character: then no quoted text has changed what stands around it.

`Reader` does this reading in one pass. `Shifts b s b'` says what a piece of a statement does to the brackets that are open, so
a statement is followed piece by piece; a piece that leaves them as they are is `Neutral`.
-/

namespace FlinkSql.Text

/-! ## Quoted regions -/

/-- Whether the character opens a quoted region. -/
def isQuote (c : Char) : Bool := c == singleQuote || c == backtick

/-- The region behind a character, by the quote that opened it; none outside. -/
def nextRegion : Option Char → Char → Option Char
  | some q, c => if c = q then none else some q
  | none, c => if isQuote c then some c else none

/-- The region behind a text. -/
def regionAfter (region : Option Char) (s : List Char) : Option Char := s.foldl nextRegion region

/-- The characters of a text that stand outside quoted regions, the quotes themselves left out. -/
def outside : Option Char → List Char → List Char
  | _, [] => []
  | region, c :: rest =>
    if region = none ∧ !isQuote c then c :: outside (nextRegion region c) rest else outside (nextRegion region c) rest

theorem outside_append (region : Option Char) (s t : List Char) :
    outside region (s ++ t) = outside region s ++ outside (regionAfter region s) t := by
  induction s generalizing region with
  | nil => rfl
  | cons c s ih =>
    rw [List.cons_append, outside, outside, regionAfter, List.foldl_cons, ← regionAfter, ih]
    split
    · rw [List.cons_append]
    · rfl

/-! ## Brackets -/

/-- The open brackets behind a character, the innermost first. None if a bracket closes that is not the innermost open one. -/
def nextBrackets (brackets : List Char) (c : Char) : Option (List Char) :=
  if c = '(' ∨ c = '[' then some (c :: brackets)
  else if c = ')' then (if brackets.head? = some '(' then some brackets.tail else none)
  else if c = ']' then (if brackets.head? = some '[' then some brackets.tail else none)
  else some brackets

/-- The open brackets behind a text. -/
def bracketsAfter (brackets : List Char) (s : List Char) : Option (List Char) := s.foldlM nextBrackets brackets

/-- As many brackets of a kind are closed as are opened, and nowhere more than are opened up to there. -/
def Balanced (opening closing : Char) (s : List Char) : Prop :=
  s.count opening = s.count closing ∧ ∀ t, t <+: s → t.count closing ≤ t.count opening

/-- A text that ends outside every quoted region, with its brackets closed one inside the other, and whose only semicolon outside
quoted regions is its last character. -/
structure Confined (text : String) : Prop where
  closed : regionAfter none text.toList = none
  nested : bracketsAfter [] (outside none text.toList) = some []
  round : Balanced '(' ')' (outside none text.toList)
  square : Balanced '[' ']' (outside none text.toList)
  semicolon : ∃ body, text.toList = body ++ [';'] ∧ regionAfter none body = none ∧ ';' ∉ outside none body

/-- What is open further down does not matter to a character that does not close it. -/
theorem nextBrackets_frame {b b' : List Char} {c : Char} (h : nextBrackets b c = some b') (below : List Char) :
    nextBrackets (b ++ below) c = some (b' ++ below) := by
  unfold nextBrackets at h ⊢
  split_ifs at h ⊢ <;> grind

/-- A character and the brackets open behind it: what is opened is either closed or still open. -/
theorem count_nextBrackets {b b' : List Char} {c opening closing : Char} (h : nextBrackets b c = some b')
    (hkind : (opening, closing) ∈ [('(', ')'), ('[', ']')]) :
    [c].count opening + b.count opening = [c].count closing + b'.count opening := by
  have hcases : (opening = '(' ∧ closing = ')') ∨ (opening = '[' ∧ closing = ']') := by simpa using hkind
  unfold nextBrackets at h
  split_ifs at h with hopen hround hhead hsquare hhead
  · cases h
    rcases hcases with ⟨rfl, rfl⟩ | ⟨rfl, rfl⟩ <;> rcases hopen with rfl | rfl <;> simp [Nat.add_comm]
  · cases h
    obtain ⟨rest, rfl⟩ := List.head?_eq_some_iff.mp hhead
    rcases hcases with ⟨rfl, rfl⟩ | ⟨rfl, rfl⟩ <;> simp [hround, Nat.add_comm]
  · cases h
    obtain ⟨rest, rfl⟩ := List.head?_eq_some_iff.mp hhead
    rcases hcases with ⟨rfl, rfl⟩ | ⟨rfl, rfl⟩ <;> simp [hsquare, Nat.add_comm]
  · cases h
    rcases hcases with ⟨rfl, rfl⟩ | ⟨rfl, rfl⟩ <;> simp_all

/-- In a text that closes only what is open, what is opened is either closed or still open behind it. -/
theorem count_bracketsAfter {b b' s : List Char} {opening closing : Char} (h : bracketsAfter b s = some b')
    (hkind : (opening, closing) ∈ [('(', ')'), ('[', ']')]) :
    s.count opening + b.count opening = s.count closing + b'.count opening := by
  induction s generalizing b with
  | nil =>
    cases h
    simp only [List.count_nil]
  | cons c s ih =>
    obtain ⟨b₁, hb₁, hrest⟩ := Option.bind_eq_some_iff.mp h
    have hhead := count_nextBrackets hb₁ hkind
    have htail := ih hrest
    have hcons : ∀ x, (c :: s).count x = [c].count x + s.count x := fun x => by
      rw [← List.count_append, List.singleton_append]
    rw [hcons, hcons]
    omega

/-- Brackets that close one inside the other are balanced, of either kind. -/
theorem balanced_of_nested {s : List Char} {opening closing : Char} (h : bracketsAfter [] s = some [])
    (hkind : (opening, closing) ∈ [('(', ')'), ('[', ']')]) : Balanced opening closing s := by
  refine ⟨by simpa using count_bracketsAfter h hkind, ?_⟩
  rintro t ⟨rest, rfl⟩
  rw [bracketsAfter, List.foldlM_append] at h
  obtain ⟨b, hb, -⟩ := Option.bind_eq_some_iff.mp h
  have := count_bracketsAfter hb hkind
  simp only [List.count_nil] at this
  omega

/-! ## Reading -/

/-- Where the reading of a statement stands: the region, and the brackets open outside it. -/
structure Reader where
  region : Option Char
  brackets : List Char
  deriving DecidableEq

namespace Reader

/-- Reads a character; refuses a semicolon outside quoted regions, and a bracket that closes no open one. -/
def next (r : Reader) (c : Char) : Option Reader :=
  if r.region = none ∧ !isQuote c then
    if c = ';' then none else (nextBrackets r.brackets c).map fun brackets => ⟨none, brackets⟩
  else some ⟨nextRegion r.region c, r.brackets⟩

/-- Reads a text. -/
def read (r : Reader) : List Char → Option Reader
  | [] => some r
  | c :: rest => (r.next c).bind fun r => read r rest

theorem read_append (r : Reader) (s t : List Char) : r.read (s ++ t) = (r.read s).bind fun r => r.read t := by
  induction s generalizing r with
  | nil => rfl
  | cons c s ih =>
    rw [List.cons_append, read, read, Option.bind_assoc]
    congr 1
    funext r'
    exact ih r'

/-- What the reader accepts: it is in the region behind the text, the brackets outside regions lead from those open before to
those open behind, and no semicolon stands outside. -/
theorem read_sound {r r' : Reader} {s : List Char} (h : r.read s = some r') :
    regionAfter r.region s = r'.region ∧ bracketsAfter r.brackets (outside r.region s) = some r'.brackets ∧
      ';' ∉ outside r.region s := by
  induction s generalizing r with
  | nil =>
    cases h
    exact ⟨rfl, rfl, List.not_mem_nil⟩
  | cons c s ih =>
    obtain ⟨r₁, hnext, hrest⟩ := Option.bind_eq_some_iff.mp h
    obtain ⟨hregion, hbrackets, hsemi⟩ := ih hrest
    by_cases hc : r.region = none ∧ !isQuote c
    · rw [next, if_pos hc] at hnext
      split at hnext
      · cases hnext
      · rename_i hne
        obtain ⟨b, hb, rfl⟩ := Option.map_eq_some_iff.mp hnext
        have hsame : nextRegion r.region c = none := by
          obtain ⟨hr, hq⟩ := hc
          rw [hr, nextRegion, if_neg (by simpa using hq)]
        rw [regionAfter, List.foldl_cons, hsame, outside, if_pos hc, hsame]
        refine ⟨hregion, ?_, ?_⟩
        · rw [bracketsAfter, List.foldlM_cons, hb]
          exact hbrackets
        · exact List.not_mem_cons_of_ne_of_not_mem (fun h => hne h.symm) hsemi
    · rw [next, if_neg hc] at hnext
      cases hnext
      rw [regionAfter, List.foldl_cons, outside, if_neg hc]
      exact ⟨hregion, hbrackets, hsemi⟩

/-- What is open further down does not matter to a reading that never closes it. -/
theorem read_frame {r r' : Reader} {s : List Char} (h : r.read s = some r') (below : List Char) :
    (⟨r.region, r.brackets ++ below⟩ : Reader).read s = some ⟨r'.region, r'.brackets ++ below⟩ := by
  induction s generalizing r with
  | nil =>
    cases h
    rfl
  | cons c s ih =>
    obtain ⟨r₁, hnext, hrest⟩ := Option.bind_eq_some_iff.mp h
    refine Option.bind_eq_some_iff.mpr ⟨⟨r₁.region, r₁.brackets ++ below⟩, ?_, ih hrest⟩
    unfold next at hnext ⊢
    split at hnext
    · rename_i hc
      rw [if_pos hc]
      split at hnext
      · cases hnext
      · rename_i hne
        obtain ⟨b, hb, rfl⟩ := Option.map_eq_some_iff.mp hnext
        rw [if_neg hne, nextBrackets_frame hb]
        rfl
    · rename_i hc
      cases hnext
      rw [if_neg hc]

end Reader

end FlinkSql.Text
