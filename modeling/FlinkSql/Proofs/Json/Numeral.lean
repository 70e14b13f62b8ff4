import FlinkSql.Json.Token
import FlinkSql.Proofs.Number.Numeral
import Mathlib.Data.List.Basic

/-!
# Numbers are read back

A number that is read begins with a digit or a minus sign, and has no characters but those of numbers. Whole numbers that fit a word
are read back from their digits.
-/

namespace FlinkSql.Json.Numeral

/-! ## The characters of a number -/

open Number (digits Spelling)

variable {s rest : List Char}

/-- What stands in front of the rest are characters of a number. -/
def Leaves (s rest : List Char) : Prop := ∃ front, s = front ++ rest ∧ ∀ c ∈ front, Token.isNumeric c = true

/-- What is taken away in two steps may be taken away in one. -/
theorem Leaves.trans {middle : List Char} (h : Leaves s middle) (hrest : Leaves middle rest) : Leaves s rest := by
  obtain ⟨front, rfl, hfront⟩ := h
  obtain ⟨next, rfl, hnext⟩ := hrest
  exact ⟨front ++ next, (List.append_assoc _ _ _).symm, List.forall_mem_append.mpr ⟨hfront, hnext⟩⟩

/-- A character of a number may be taken away. -/
theorem leaves_cons {c : Char} (hc : Token.isNumeric c = true) (rest : List Char) : Leaves (c :: rest) rest :=
  ⟨[c], rfl, List.forall_mem_singleton.mpr hc⟩

theorem leaves_refl (rest : List Char) : Leaves rest rest := ⟨[], rfl, List.forall_mem_nil _⟩

/-- Digits may be taken away. -/
theorem leaves_digits (s : List Char) : Leaves s (s.dropWhile Char.isDigit) := by
  refine ⟨s.takeWhile Char.isDigit, List.takeWhile_append_dropWhile.symm, fun c hc => ?_⟩
  simp [Token.isNumeric, List.mem_takeWhile_imp hc]

/-- A sign may be taken away. -/
theorem leaves_sign (s : List Char) : Leaves s (Spelling.takeSign s).2 := by
  unfold Spelling.takeSign
  split
  · exact leaves_cons rfl _
  · exact leaves_cons rfl _
  · exact leaves_refl _

/-- A point and the digits behind it may be taken away. -/
theorem leaves_fraction (s : List Char) : Leaves s (Spelling.takeFraction s).2 := by
  unfold Spelling.takeFraction
  split
  · exact (leaves_cons rfl _).trans (leaves_digits _)
  · exact leaves_refl _

/-- An exponent may be taken away, with its letter, its sign and its digits. -/
theorem leaves_exponent (s : List Char) : Leaves s (Spelling.takeExponent s).2 := by
  unfold Spelling.takeExponent
  split
  · exact leaves_refl _
  · rename_i c rest
    split_ifs with hc
    · have hletter : Token.isNumeric c = true := by rcases hc with rfl | rfl <;> rfl
      exact ((leaves_cons hletter _).trans (leaves_sign _)).trans (leaves_digits _)
    · exact leaves_refl _

/-- All characters of a number that is read are those of numbers. -/
theorem numeric_of_ofChars? {n : Spelling} (h : Spelling.ofChars? s = some n) : ∀ c ∈ s, Token.isNumeric c = true := by
  have hleaves : Leaves s (Spelling.takeExponent (Spelling.takeFraction ((Spelling.takeSign s).2.dropWhile Char.isDigit)).2).2 :=
    (((leaves_sign s).trans (leaves_digits _)).trans (leaves_fraction _)).trans (leaves_exponent _)
  simp only [Spelling.ofChars?] at h
  split_ifs at h with hempty
  rw [List.isEmpty_iff.mp hempty] at hleaves
  obtain ⟨front, rfl, hfront⟩ := hleaves
  rwa [List.append_nil]

/-- A number that is read begins with a digit or a minus sign. -/
theorem begins_of_read? {v : Json} (h : read? s = some v) : ∃ c rest, s = c :: rest ∧ (c.isDigit = true ∨ c = '-') := by
  obtain ⟨n, hn, h⟩ := Option.bind_eq_some_iff.mp h
  split_ifs at h with hwell
  simp only [Spelling.ofChars?] at hn
  split_ifs at hn with hempty
  cases hn
  simp only [isWellFormed, Bool.and_eq_true] at hwell
  obtain ⟨⟨⟨⟨hsign, hwhole⟩, -⟩, -⟩, -⟩ := hwell
  unfold Spelling.takeSign at hsign hwhole
  split at hsign
  · simp at hsign
  · exact ⟨_, _, rfl, Or.inr rfl⟩
  · cases s with
    | nil => simp at hwhole
    | cons c rest =>
      refine ⟨c, rest, rfl, Or.inl ?_⟩
      by_contra hc
      simp [hc] at hwhole

/-! ## Whole numbers -/

/-- Only zero begins with a zero. -/
theorem head_digits {n : Nat} (hn : n ≠ 0) : (digits n).head? ≠ some '0' := by
  induction n using Nat.strongRecOn with
  | ind n ih =>
    rw [digits]
    by_cases hlt : n < 10
    · have hdigit : ∀ d < 10, d ≠ 0 → [Nat.digitChar d].head? ≠ some '0' := by decide
      rw [Nat.toDigits_of_lt_base hlt]
      exact hdigit n hlt hn
    · rw [Nat.toDigits_of_base_le (by decide) (by omega), List.head?_append_of_ne_nil _ Nat.toDigits_ne_nil]
      exact ih (n / 10) (by omega) (by omega)

/-- In front of a digit there is no sign. -/
theorem takeSign_of_isDigit {c : Char} (hc : c.isDigit = true) (rest : List Char) :
    Spelling.takeSign (c :: rest) = (none, c :: rest) := by
  unfold Spelling.takeSign
  split
  · rename_i heq
    cases heq
    exact absurd hc (by decide)
  · rename_i heq
    cases heq
    exact absurd hc (by decide)
  · rfl

/-- A whole number, taken apart. -/
theorem ofChars?_int (n : Int) :
    Spelling.ofChars? (toString n).toList = some ⟨if n < 0 then some '-' else none, digits n.natAbs, none, none⟩ := by
  have hdigits : ∀ c ∈ digits n.natAbs, c.isDigit = true := fun _ => Number.isDigit_of_mem_digits
  have htake : (digits n.natAbs).takeWhile Char.isDigit = digits n.natAbs := List.takeWhile_eq_self_iff.mpr hdigits
  have hdrop : (digits n.natAbs).dropWhile Char.isDigit = [] := List.dropWhile_eq_nil_iff.mpr hdigits
  have hsign : Spelling.takeSign (toString n).toList = (if n < 0 then some '-' else none, digits n.natAbs) := by
    rw [Number.toList_int]
    split_ifs with hn
    · rfl
    · obtain ⟨c, rest, htext⟩ := List.exists_cons_of_ne_nil (Number.magnitude_digits n.natAbs).nonempty
      rw [htext]
      exact takeSign_of_isDigit (hdigits c (by rw [htext]; exact List.mem_cons_self)) rest
  simp only [Spelling.ofChars?, hsign, htake, hdrop, Spelling.takeFraction, Spelling.takeExponent, List.isEmpty_nil, if_true]

/-- A whole number that fits a word is read back. -/
theorem read?_int {n : Int} (hlow : Int64.minValue.toInt ≤ n) (hhigh : n < UInt64.size) :
    read? (toString n).toList = some (.int n) := by
  have hmagnitude : Number.ofDigits (digits n.natAbs) = n.natAbs := Nat.ofDigitChars_ten_toDigits
  have hnonempty : (digits n.natAbs).isEmpty = false := List.isEmpty_eq_false_iff.mpr (Number.magnitude_digits n.natAbs).nonempty
  have hlead : ((digits n.natAbs).length == 1 || (digits n.natAbs).head? != some '0') = true := by
    by_cases hzero : n.natAbs = 0
    · rw [hzero]
      rfl
    · rw [bne_iff_ne.mpr (head_digits hzero), Bool.or_true]
  have hwell : ∀ sign, sign ≠ some '+' → isWellFormed ⟨sign, digits n.natAbs, none, none⟩ = true := by
    intro sign hsign
    simp [isWellFormed, hnonempty, hlead, hsign, Spelling.exponentComplete]
  rw [read?, ofChars?_int]
  by_cases hneg : n < 0
  · have hvalue : value ⟨some '-', digits n.natAbs, none, none⟩ = .int n := by
      have hrange : n.natAbs ≠ 0 ∧ Int64.minValue.toInt ≤ -(n.natAbs : Int) := by omega
      have hself : -(n.natAbs : Int) = n := by omega
      rw [value, hmagnitude]
      exact (if_pos hrange).trans (congrArg Json.int hself)
    rw [if_pos hneg, Option.bind_eq_bind, Option.bind_some, if_pos (hwell _ (by decide)), hvalue]
  · have hvalue : value ⟨none, digits n.natAbs, none, none⟩ = .int n := by
      have hrange : n.natAbs < UInt64.size := by omega
      have hself : (n.natAbs : Int) = n := by omega
      rw [value, hmagnitude]
      exact (if_pos hrange).trans (congrArg Json.int hself)
    rw [if_neg hneg, Option.bind_eq_bind, Option.bind_some, if_pos (hwell _ (by decide)), hvalue]

end FlinkSql.Json.Numeral
