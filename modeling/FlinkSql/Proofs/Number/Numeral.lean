import FlinkSql.Expr.Sql
import Mathlib.Data.List.TakeWhile

/-!
# Written numbers

Integers, finite doubles and decimals are written in one form, a `Numeral`: digits and points, behind a minus sign if the number
is negative. What is known of such texts is known of all three.
-/

namespace FlinkSql.Number

open Text

/-- Whether a character stands in a number behind its sign: a digit of any script, or a point. -/
def isNumeric (c : Char) : Bool := isDecimalDigit c || c == '.'

/-- What stands behind the sign of a number. -/
structure Magnitude (s : List Char) : Prop where
  nonempty : s ≠ []
  numeric : ∀ c ∈ s, isNumeric c = true

/-- A written number. -/
inductive Numeral : List Char → Prop
  | positive {s : List Char} (h : Magnitude s) : Numeral s
  | negative {s : List Char} (h : Magnitude s) : Numeral ('-' :: s)

/-- A decimal digit of any script is a character of numbers. -/
theorem isNumeric_of_isDecimalDigit {c : Char} (h : isDecimalDigit c = true) : isNumeric c = true := by
  rw [isNumeric, h, Bool.true_or]

theorem isNumeric_of_isDigit {c : Char} (h : c.isDigit = true) : isNumeric c = true :=
  isNumeric_of_isDecimalDigit (isDecimalDigit_of_isDigit h)

/-- A sign may stand in front of a magnitude, or not. -/
theorem Magnitude.signed {s : List Char} (h : Magnitude s) (sign : Bool) :
    Numeral ((if sign then "-" else "").toList ++ s) := by
  cases sign with
  | true => exact .negative h
  | false => exact .positive h

/-- The sign and the magnitude of a number are told apart. -/
theorem Magnitude.signed_injective {s t : List Char} (hs : Magnitude s) (ht : Magnitude t) {p q : Prop} [Decidable p] [Decidable q]
    (h : (if p then "-" else "").toList ++ s = (if q then "-" else "").toList ++ t) : (p ↔ q) ∧ s = t := by
  have hsign : ∀ {u rest : List Char}, Magnitude u → u ≠ '-' :: rest := by
    rintro u rest hu rfl
    exact absurd (hu.numeric '-' List.mem_cons_self) (by decide)
  split_ifs at h with hp hq hq
  · exact ⟨iff_of_true hp hq, (List.cons.inj h).2⟩
  · exact absurd h.symm (hsign ht)
  · exact absurd h (hsign hs)
  · exact ⟨iff_of_false hp hq, h⟩

/-- A number begins with a sign, a digit or a point. -/
theorem Numeral.head?_ne {s : List Char} (h : Numeral s) {c : Char} (hnumeric : isNumeric c = false) (hsign : c ≠ '-') :
    s.head? ≠ some c := by
  intro hc
  cases h with
  | positive h => exact Bool.false_ne_true (hnumeric ▸ h.numeric c (List.mem_of_mem_head? hc))
  | negative h => exact hsign (Option.some.inj hc).symm

/-! ## Whole numbers -/

/-- The digits of a natural number are ASCII digits. -/
theorem isDigit_of_mem_digits {n : Nat} {c : Char} (h : c ∈ digits n) : c.isDigit = true :=
  Nat.isDigit_of_mem_toDigits (by decide) (by decide) h

/-- The digits of a natural number are what stands behind the sign of a number. -/
theorem magnitude_digits (n : Nat) : Magnitude (digits n) :=
  ⟨Nat.toDigits_ne_nil, fun _ hc => isNumeric_of_isDigit (isDigit_of_mem_digits hc)⟩

/-- A natural number is written with its digits. -/
theorem toList_nat (n : Nat) : (toString n).toList = digits n := by
  rw [Nat.toString_eq_repr, Nat.toList_repr]
  rfl

/-- Different numbers have different digits: the number is read back from them. -/
theorem digits_injective : Function.Injective digits := by
  intro m n h
  calc m = Nat.ofDigitChars 10 (digits m) 0 := Nat.ofDigitChars_ten_toDigits.symm
    _ = Nat.ofDigitChars 10 (digits n) 0 := by rw [h]
    _ = n := Nat.ofDigitChars_ten_toDigits

/-- A whole number: its digits, behind a sign if it is negative. -/
theorem toList_int (n : Int) : (toString n).toList = (if n < 0 then "-" else "").toList ++ digits n.natAbs := by
  cases n with
  | ofNat n => exact toList_nat n
  | negSucc n =>
    rw [Int.toString_eq_repr, Int.repr_eq_if, if_neg (by omega), String.toList_append, Int.neg_negSucc, if_pos (by omega),
      Int.natAbs_negSucc, ← toList_nat, Nat.toString_eq_repr]
    rfl

/-- A whole number is written as a number, with a minus sign if it is negative. -/
theorem numeral_int (n : Int) : Numeral (toString n).toList := by
  rw [toList_int]
  split_ifs
  · exact .negative (magnitude_digits _)
  · exact .positive (magnitude_digits _)

/-! ## Doubles -/

/-- The digits of the shortest decimal of a double are digits. -/
theorem isDigit_of_mem_shortest {tie : Tie} {b : Binary} {c : Char} (h : c ∈ (b.shortest tie).digits) : c.isDigit = true := by
  have hdrop : ∀ n, c ∈ dropEndWhile (· == '0') (digits n) → c.isDigit = true := by
    intro n hc
    rw [dropEndWhile, List.mem_reverse] at hc
    exact isDigit_of_mem_digits (List.mem_reverse.mp (List.dropWhile_subset _ hc))
  exact hdrop _ h

/-- In positional notation there are digits and a point, if nothing stands behind a whole number. -/
theorem isDigit_or_eq_point {l : Layout} (hl : l.afterWhole = "") {d : Decimal} (hd : ∀ c ∈ d.digits, c.isDigit = true) :
    ∀ c ∈ (l.positionalText d).toList, c.isDigit = true ∨ c = '.' := by
  have hdigits : ∀ c ∈ d.digits, c.isDigit = true ∨ c = '.' := fun c hc => Or.inl (hd c hc)
  have hzeros : ∀ n, ∀ c ∈ List.replicate n '0', c.isDigit = true ∨ c = '.' := by
    intro n c hc
    rw [List.eq_of_mem_replicate hc]
    exact Or.inl (by decide)
  have hpoint : ∀ c ∈ ".".toList, c.isDigit = true ∨ c = '.' := List.forall_mem_singleton.mpr (Or.inr rfl)
  have hlead : ∀ c ∈ "0.".toList, c.isDigit = true ∨ c = '.' := List.forall_mem_cons.mpr ⟨Or.inl (by decide), hpoint⟩
  simp only [Layout.positionalText]
  split
  · simp only [String.toList_append, String.toList_ofList]
    exact List.forall_mem_append.mpr ⟨hlead, List.forall_mem_append.mpr ⟨hzeros _, hdigits⟩⟩
  · split
    · rw [hl, String.append_empty, String.toList_ofList]
      exact List.forall_mem_append.mpr ⟨hdigits, hzeros _⟩
    · simp only [String.toList_append, String.toList_ofList]
      refine List.forall_mem_append.mpr ⟨List.forall_mem_append.mpr ⟨?_, hpoint⟩, ?_⟩
      · exact fun c hc => hdigits c (List.take_subset _ _ hc)
      · exact fun c hc => hdigits c (List.drop_subset _ _ hc)

/-- A decimal has one digit at least. -/
theorem positionalText_ne_nil {l : Layout} (hl : l.afterWhole = "") (d : Decimal) : (l.positionalText d).toList ≠ [] := by
  simp only [Layout.positionalText]
  split
  · simp
  · split
    · rw [hl, String.append_empty, String.toList_ofList]
      -- there are as many characters as the whole part has places, and it has one at least
      intro hnil
      have hlength := congrArg List.length hnil
      rw [List.length_append, List.length_replicate, List.length_nil] at hlength
      omega
    · simp

/-- Digits around a point, with nothing behind a whole number. -/
theorem magnitude_positionalText {l : Layout} (hl : l.afterWhole = "") {d : Decimal} (hd : ∀ c ∈ d.digits, c.isDigit = true) :
    Magnitude (l.positionalText d).toList := by
  refine ⟨positionalText_ne_nil hl d, fun c hc => ?_⟩
  rcases isDigit_or_eq_point hl hd c hc with hdigit | rfl
  · exact isNumeric_of_isDigit hdigit
  · rfl

/-- A finite double is zero or has a shortest decimal. -/
theorem kind_of_isFinite {x : Float} (h : isFinite x = true) : kind x = .zero ∨ ∃ b, kind x = .finite b := by
  have hbiased : x.toBits.toNat / fractionSize % exponentSize ≠ 2047 := of_decide_eq_true h
  simp only [kind, if_neg hbiased]
  split
  · split
    · exact Or.inl rfl
    · exact Or.inr ⟨_, rfl⟩
  · exact Or.inr ⟨_, rfl⟩

/-- A finite double in SQL: what stands behind the sign, and the sign that a negative double has. -/
theorem toList_numberText {x : Float} (h : isFinite x = true) :
    ∃ s, Magnitude s ∧ (Literal.numberText x).toList = (if isNegative x then "-" else "").toList ++ s := by
  rw [Literal.numberText, Layout.write]
  rcases kind_of_isFinite h with hkind | ⟨b, hkind⟩
  · have hzero : (Literal.numberLayout.afterWhole) = "" := rfl
    rw [hkind, hzero, String.append_empty, String.toList_append]
    exact ⟨_, ⟨by decide, List.all_eq_true.mp (by decide)⟩, rfl⟩
  · rw [hkind, String.toList_append]
    exact ⟨_, magnitude_positionalText rfl fun _ => isDigit_of_mem_shortest, rfl⟩

/-- A finite double is written as a number. -/
theorem numeral_numberText {x : Float} (h : isFinite x = true) : Numeral (Literal.numberText x).toList := by
  obtain ⟨s, hs, htext⟩ := toList_numberText h
  rw [htext]
  exact hs.signed _

end FlinkSql.Number

namespace FlinkSql.Literal

open Text Number

/-! ## Decimals -/

/-- Digits of any script, one at least. -/
structure IsDigits (s : List Char) : Prop where
  nonempty : s ≠ []
  digits : ∀ c ∈ s, isDecimalDigit c = true

/-- Digits, perhaps with a point and more digits behind them. -/
inductive IsUnsignedText : List Char → Prop
  | whole {s : List Char} (h : IsDigits s) : IsUnsignedText s
  | fraction {s t : List Char} (hs : IsDigits s) (ht : IsDigits t) : IsUnsignedText (s ++ '.' :: t)

/-- The form of a decimal literal: digits and perhaps a fraction, perhaps behind a minus sign. -/
inductive IsDecimalText : List Char → Prop
  | positive {s : List Char} (h : IsUnsignedText s) : IsDecimalText s
  | negative {s : List Char} (h : IsUnsignedText s) : IsDecimalText ('-' :: s)

theorem IsDigits.magnitude {s : List Char} (h : IsDigits s) : Magnitude s :=
  ⟨h.nonempty, fun c hc => isNumeric_of_isDecimalDigit (h.digits c hc)⟩

/-- Decimal digits, also with a point among them, stand behind the sign of a number. -/
theorem IsUnsignedText.magnitude {s : List Char} (h : IsUnsignedText s) : Magnitude s := by
  cases h with
  | whole h => exact h.magnitude
  | fraction hs ht =>
    refine ⟨List.append_ne_nil_of_left_ne_nil hs.nonempty _, ?_⟩
    exact List.forall_mem_append.mpr ⟨hs.magnitude.numeric, List.forall_mem_cons.mpr ⟨rfl, ht.magnitude.numeric⟩⟩

/-- Such a text begins with a digit. -/
theorem IsUnsignedText.exists_cons {s : List Char} (h : IsUnsignedText s) : ∃ c rest, s = c :: rest ∧ isDecimalDigit c = true := by
  have hdigits : ∀ {s}, IsDigits s → ∃ c rest, s = c :: rest ∧ isDecimalDigit c = true := by
    intro s hs
    obtain ⟨c, rest, rfl⟩ := List.exists_cons_of_ne_nil hs.nonempty
    exact ⟨c, rest, rfl, hs.digits c List.mem_cons_self⟩
  cases h with
  | whole h => exact hdigits h
  | fraction hs ht =>
    obtain ⟨c, rest, rfl, hc⟩ := hdigits hs
    exact ⟨c, _, List.cons_append, hc⟩

/-- The check of a decimal without a sign finds digits, or digits on both sides of a point. -/
theorem isUnsignedDecimal_iff {s : List Char} : isUnsignedDecimal s = true ↔ IsUnsignedText s := by
  constructor
  · intro h
    rw [isUnsignedDecimal, Bool.and_eq_true, Bool.not_eq_true', List.isEmpty_eq_false_iff] at h
    obtain ⟨hwhole, hrest⟩ := h
    have hdigits : IsDigits (s.takeWhile isDecimalDigit) := ⟨hwhole, fun c hc => List.mem_takeWhile_imp hc⟩
    rw [← List.takeWhile_append_dropWhile (p := isDecimalDigit) (l := s)]
    cases hfraction : s.dropWhile isDecimalDigit with
    | nil =>
      rw [List.append_nil]
      exact .whole hdigits
    | cons c rest =>
      simp only [hfraction, Bool.and_eq_true, beq_iff_eq, Bool.not_eq_true', List.isEmpty_eq_false_iff, List.all_eq_true] at hrest
      obtain ⟨⟨rfl, hne⟩, hrest⟩ := hrest
      exact .fraction hdigits ⟨hne, hrest⟩
  · intro h
    rw [isUnsignedDecimal]
    cases h with
    | whole h =>
      rw [List.takeWhile_eq_self_iff.mpr h.digits, List.dropWhile_eq_nil_iff.mpr h.digits]
      simpa using h.nonempty
    | fraction hs ht =>
      have hpoint : isDecimalDigit '.' = false := by decide
      rw [List.takeWhile_append_of_pos hs.digits, List.dropWhile_append_of_pos hs.digits, List.takeWhile_cons_of_neg (by simp [hpoint]),
        List.dropWhile_cons_of_neg (by simp [hpoint])]
      simpa [hs.nonempty, ht.nonempty] using ht.digits

/-- The test for decimals looks for their form. -/
theorem isDecimal_iff {d : String} : isDecimal d = true ↔ IsDecimalText d.toList := by
  rw [isDecimal]
  cases htext : d.toList with
  | nil =>
    refine iff_of_false nofun fun h => ?_
    cases h with
    | positive h => exact h.magnitude.nonempty rfl
  | cons c rest =>
    simp only
    split
    · rename_i hc
      rw [isUnsignedDecimal_iff, hc]
      refine ⟨.negative, fun h => ?_⟩
      cases h with
      | negative h => exact h
      | positive h =>
        obtain ⟨_, _, heq, hdigit⟩ := h.exists_cons
        cases heq
        exact absurd hdigit (by decide)
    · rename_i hc
      rw [isUnsignedDecimal_iff]
      refine ⟨.positive, fun h => ?_⟩
      cases h with
      | positive h => exact h
      | negative h => exact absurd rfl hc

/-- The text of a decimal literal. -/
theorem numeral_of_isDecimal {d : String} (h : isDecimal d = true) : Numeral d.toList := by
  have hform := isDecimal_iff.mp h
  generalize d.toList = s at hform ⊢
  cases hform with
  | positive h => exact .positive h.magnitude
  | negative h => exact .negative h.magnitude

end FlinkSql.Literal
