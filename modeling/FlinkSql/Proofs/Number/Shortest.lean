import FlinkSql.Number.Layout
import FlinkSql.Proofs.Text.Trimmed
import Mathlib.Data.Nat.Digits.Defs
import Mathlib.Tactic.Ring

/-!
# The shortest decimal of a double

Among the multiples of a power of ten that is small against a double, one rounds to it: seventeen digits are enough, so a shortest
decimal is always found. It is a multiple of the largest power of ten that has one, and rounds to the double.
-/

namespace FlinkSql.Number

open Text

/-! ## Digits -/

theorem digitCount_pos (n : Nat) : 0 < digitCount n := Nat.length_toDigits_pos

theorem lt_pow_digitCount (n : Nat) : n < 10 ^ digitCount n :=
  (Nat.length_toDigits_le_iff (by decide) (digitCount_pos n)).mp (Nat.le_refl _)

theorem pow_digitCount_le {n : Nat} (hn : 0 < n) : 10 ^ (digitCount n - 1) ≤ n := by
  by_contra hlt
  rcases Nat.eq_zero_or_pos (digitCount n - 1) with hzero | hpos
  · rw [hzero] at hlt
    omega
  · have hlength : digitCount n ≤ digitCount n - 1 :=
      (Nat.length_toDigits_le_iff (by decide) hpos).mpr (Nat.not_le.mp hlt)
    omega

/-- The digits of a number are those without the zeros at the end, and the zeros. -/
theorem digits_eq_append (n : Nat) : digits n = dropEndWhile (· == '0') (digits n) ++
    List.replicate (digitCount n - (dropEndWhile (· == '0') (digits n)).length) '0' := by
  have hzeros : ∀ c ∈ ((digits n).reverse.takeWhile (· == '0')).reverse, c = '0' := by
    intro c hc
    have hzero : (c == '0') = true := List.mem_takeWhile_imp (p := (· == '0')) (List.mem_reverse.mp hc)
    exact beq_iff_eq.mp hzero
  have hsplit : digits n = dropEndWhile (· == '0') (digits n) ++
      List.replicate ((digits n).reverse.takeWhile (· == '0')).length '0' := by
    have hreplicate := List.eq_replicate_of_mem hzeros
    rw [List.length_reverse] at hreplicate
    rw [← hreplicate, dropEndWhile, ← List.reverse_append, List.takeWhile_append_dropWhile, List.reverse_reverse]
  have hlength : digitCount n - (dropEndWhile (· == '0') (digits n)).length =
      ((digits n).reverse.takeWhile (· == '0')).length := by
    have h := congrArg List.length hsplit
    rw [List.length_append, List.length_replicate] at h
    rw [digitCount]
    omega
  rw [hlength]
  exact hsplit

/-- A number is read back from its digits without the zeros at the end, if the zeros are counted. -/
theorem ofDigitChars_mul_pow (n : Nat) : Nat.ofDigitChars 10 (dropEndWhile (· == '0') (digits n)) 0 *
    10 ^ (digitCount n - (dropEndWhile (· == '0') (digits n)).length) = n := by
  have hvalue : Nat.ofDigitChars 10 (digits n) 0 = n := Nat.ofDigitChars_ten_toDigits
  rw [digits_eq_append, Nat.ofDigitChars_append, Nat.ofDigitChars_replicate_zero] at hvalue
  rw [Nat.mul_comm]
  exact hvalue

/-- Zeros are written behind the digits of a number that is multiplied by a power of ten. -/
theorem digits_mul_pow {n : Nat} (hn : 0 < n) (k : Nat) : digits (n * 10 ^ k) = digits n ++ List.replicate k '0' := by
  induction k with
  | zero => rw [Nat.pow_zero, Nat.mul_one, List.replicate_zero, List.append_nil]
  | succ k ih =>
    have hpos : 0 < n * 10 ^ k := Nat.mul_pos hn (Nat.pow_pos (by decide))
    calc digits (n * 10 ^ (k + 1))
        _ = digits (10 * (n * 10 ^ k) + 0) := by
          congr 1
          ring
        _ = digits (n * 10 ^ k) ++ ['0'] := (Nat.toDigits_append_toDigits (by decide) hpos (by decide)).symm
        _ = digits n ++ List.replicate (k + 1) '0' := by rw [ih, List.append_assoc, ← List.replicate_succ']

/-- The leading exponent of a fraction is that of a power of ten that is not above it. -/
theorem pow_leadingExponent_le {num den : Nat} (hnum : 0 < num) (hden : 0 < den) :
    10 ^ (leadingExponent num den).toNat * den ≤ num * 10 ^ (-leadingExponent num den).toNat := by
  unfold leadingExponent
  split
  · rename_i hle
    have hpos := digitCount_pos (num / den)
    have hlead : ((digitCount (num / den) : Int) - 1).toNat = digitCount (num / den) - 1 := by omega
    have hneg : (-((digitCount (num / den) : Int) - 1)).toNat = 0 := by omega
    rw [hlead, hneg, Nat.pow_zero, Nat.mul_one]
    calc 10 ^ (digitCount (num / den) - 1) * den
        _ ≤ num / den * den := Nat.mul_le_mul_right den (pow_digitCount_le (Nat.div_pos hle hden))
        _ ≤ num := Nat.div_mul_le_self num den
  · -- the quotient turned upside down is rounded up
    have hlead : (-(digitCount ((den + num - 1) / num - 1) : Int)).toNat = 0 := by omega
    have hneg : (- -(digitCount ((den + num - 1) / num - 1) : Int)).toNat = digitCount ((den + num - 1) / num - 1) := by omega
    have hceil : den ≤ num * ((den + num - 1) / num) := by
      have hdiv := Nat.div_add_mod (den + num - 1) num
      have hmod := Nat.mod_lt (den + num - 1) hnum
      omega
    have hbelow := lt_pow_digitCount ((den + num - 1) / num - 1)
    rw [hlead, hneg, Nat.pow_zero, Nat.one_mul]
    calc den
        _ ≤ num * ((den + num - 1) / num) := hceil
        _ ≤ num * 10 ^ digitCount ((den + num - 1) / num - 1) := Nat.mul_le_mul_left num (by omega)

/-! ## Doubles -/

/-- The mantissa of a positive double has at most 53 bits, and is a power of two where the next smaller double is nearer. -/
structure Binary.IsDouble (b : Binary) : Prop where
  pos : 0 < b.mantissa
  lt : b.mantissa < 9007199254740992
  narrow : b.narrowBelow = true → b.mantissa = 4503599627370496

theorem isDouble_of_kind {x : Float} {b : Binary} (h : kind x = .finite b) : b.IsDouble := by
  have hfraction : x.toBits.toNat % fractionSize < 4503599627370496 := Nat.mod_lt _ (by decide)
  simp only [kind] at h
  generalize x.toBits.toNat % fractionSize = fraction at h hfraction
  split at h
  · split at h <;> cases h
  · split at h
    · split at h
      · cases h
      · cases h
        exact ⟨Nat.pos_of_ne_zero ‹_›, Nat.lt_trans hfraction (by decide), nofun⟩
    · cases h
      refine ⟨Nat.add_pos_right _ (by decide), Nat.add_lt_add_right hfraction fractionSize, fun hnarrow => ?_⟩
      rw [Bool.and_eq_true, decide_eq_true_eq] at hnarrow
      show fraction + fractionSize = fractionSize
      rw [hnarrow.1, Nat.zero_add]

namespace Binary

variable {b : Binary} {tie : Tie} {scale : Int}

/-- A quarter of the gap to the next larger double, on the scale of the decimals that are looked at. -/
def fine (b : Binary) (scale : Int) : Nat := Nat.pow 2 (b.exponent - 2).toNat * Nat.pow 10 (-scale).toNat

/-- The gap between two decimals that are looked at. -/
def step (b : Binary) (scale : Int) : Nat := Nat.pow 2 (2 - b.exponent).toNat * Nat.pow 10 scale.toNat

theorem fine_pos (b : Binary) (scale : Int) : 0 < b.fine scale := Nat.mul_pos (Nat.pow_pos (by decide)) (Nat.pow_pos (by decide))

theorem step_pos (b : Binary) (scale : Int) : 0 < b.step scale := Nat.mul_pos (Nat.pow_pos (by decide)) (Nat.pow_pos (by decide))

/-- Whether the decimal rounds to the double. -/
def inside (b : Binary) (scale : Int) (n : Nat) : Bool :=
  if b.mantissa % 2 = 0 then
    (4 * b.mantissa - if b.narrowBelow then 1 else 2) * b.fine scale ≤ n * b.step scale &&
      n * b.step scale ≤ (4 * b.mantissa + 2) * b.fine scale
  else
    (4 * b.mantissa - if b.narrowBelow then 1 else 2) * b.fine scale < n * b.step scale &&
      n * b.step scale < (4 * b.mantissa + 2) * b.fine scale

/-- What rounds to the double lies at most half-way to its neighbours. -/
theorem bounds_of_inside {n : Nat} (h : b.inside scale n = true) :
    (4 * b.mantissa - 2) * b.fine scale ≤ n * b.step scale ∧ n * b.step scale ≤ (4 * b.mantissa + 2) * b.fine scale := by
  have hlow : (4 * b.mantissa - 2) * b.fine scale ≤ (4 * b.mantissa - if b.narrowBelow then 1 else 2) * b.fine scale := by
    refine Nat.mul_le_mul_right _ ?_
    split <;> omega
  unfold inside at h
  split at h
  · rw [Bool.and_eq_true, decide_eq_true_eq, decide_eq_true_eq] at h
    exact ⟨hlow.trans h.1, h.2⟩
  · rw [Bool.and_eq_true, decide_eq_true_eq, decide_eq_true_eq] at h
    exact ⟨hlow.trans h.1.le, h.2.le⟩

/-- Zero does not round to a double above it. -/
theorem pos_of_inside (hb : b.IsDouble) {n : Nat} (h : b.inside scale n = true) : 0 < n := by
  have hpos := hb.pos
  have hlow := (bounds_of_inside h).1
  have hleft : 0 < (4 * b.mantissa - 2) * b.fine scale := Nat.mul_pos (by omega) (b.fine_pos scale)
  exact Nat.pos_of_mul_pos_right (hleft.trans_le hlow)

/-- What lies nearer to the double than half-way to its neighbours rounds to it. -/
theorem inside_of_bounds {n : Nat} (hlow : (4 * b.mantissa - if b.narrowBelow then 1 else 2) * b.fine scale < n * b.step scale)
    (hhigh : n * b.step scale < (4 * b.mantissa + 2) * b.fine scale) : b.inside scale n = true := by
  unfold inside
  split
  · rw [Bool.and_eq_true, decide_eq_true_eq, decide_eq_true_eq]
    exact ⟨hlow.le, hhigh.le⟩
  · rw [Bool.and_eq_true, decide_eq_true_eq, decide_eq_true_eq]
    exact ⟨hlow, hhigh⟩

/-- A whole number that a decimal stands for rounds to the double exactly if the decimal does. -/
theorem inside_congr {k n : Nat} (h : k * 10 ^ (-scale).toNat = n * 10 ^ scale.toNat) : b.inside 0 k = b.inside scale n := by
  have hpos : 0 < 10 ^ (-scale).toNat := Nat.pow_pos (by decide)
  have hfine (m : Nat) : m * b.fine scale = m * b.fine 0 * 10 ^ (-scale).toNat := by
    simp only [fine, Nat.pow_eq, Int.toNat_zero, Int.neg_zero, Nat.pow_zero, Nat.mul_one, Nat.mul_assoc]
  have hstep : n * b.step scale = k * b.step 0 * 10 ^ (-scale).toNat := by
    calc n * b.step scale
        _ = n * 10 ^ scale.toNat * b.step 0 := by
          simp only [step, Nat.pow_eq, Int.toNat_zero, Nat.pow_zero]
          ring
        _ = k * b.step 0 * 10 ^ (-scale).toNat := by rw [← h, Nat.mul_right_comm]
  simp only [inside, hfine, hstep, Nat.mul_le_mul_right_iff hpos, Nat.mul_lt_mul_right hpos]

/-- What is found on the grid rounds to the double. -/
theorem inside_of_onGrid? {n : Nat} (h : b.onGrid? tie scale = some n) : b.inside scale n = true := by
  unfold onGrid? at h
  dsimp only at h
  split at h
  · rename_i hbelow habove
    split at h
    · cases h
      exact hbelow
    · split at h
      · cases h
        exact habove
      · split at h
        · cases h
          exact habove
        · cases h
          split
          · exact hbelow
          · exact habove
  · rename_i hbelow _
    cases h
    exact hbelow
  · rename_i _ habove
    cases h
    exact habove
  · cases h

/-- A decimal is found if one of the two around the double rounds to it. -/
theorem isSome_onGrid?_of_inside (h : b.inside scale (4 * b.mantissa * b.fine scale / b.step scale) = true ∨
    b.inside scale (4 * b.mantissa * b.fine scale / b.step scale + 1) = true) : (b.onGrid? tie scale).isSome = true := by
  unfold onGrid?
  dsimp only
  split
  · split
    · rfl
    · split
      · rfl
      · cases tie <;> rfl
  · rfl
  · rfl
  · rename_i hbelow habove
    rcases h with h | h
    · cases hbelow.symm.trans h
    · cases habove.symm.trans h

/-- Seventeen digits are more than the mantissa has, so two decimals are nearer to each other than the two ends of the interval. -/
theorem step_lt (hb : b.IsDouble) (h : 10 ^ 16 * b.step scale ≤ 4 * b.mantissa * b.fine scale) :
    b.step scale < ((if b.narrowBelow then 1 else 2) + 2) * b.fine scale := by
  have hfine := b.fine_pos scale
  have hbound (most : Nat) (hmost : b.mantissa ≤ most) : 10 ^ 16 * b.step scale ≤ 4 * most * b.fine scale :=
    h.trans (Nat.mul_le_mul_right _ (Nat.mul_le_mul_left 4 hmost))
  split
  · have hnarrow := hbound 4503599627370496 (hb.narrow ‹_›).le
    omega
  · have hwide := hbound 9007199254740992 hb.lt.le
    omega

/-- On a grid that is fine enough a decimal is found: the one below the double is inside, or else the one above is. -/
theorem isSome_onGrid? (hb : b.IsDouble) (h : 10 ^ 16 * b.step scale ≤ 4 * b.mantissa * b.fine scale) :
    (b.onGrid? tie scale).isSome = true := by
  have hdiv := Nat.div_add_mod' (4 * b.mantissa * b.fine scale) (b.step scale)
  have hmod := Nat.mod_lt (4 * b.mantissa * b.fine scale) (b.step_pos scale)
  have hstep := step_lt hb h
  have hfine := b.fine_pos scale
  have hlow := Nat.sub_mul (4 * b.mantissa) (if b.narrowBelow then 1 else 2) (b.fine scale)
  have hpart : (if b.narrowBelow then 1 else 2) * b.fine scale ≤ 4 * b.mantissa * b.fine scale := by
    have hpos := hb.pos
    refine Nat.mul_le_mul_right _ ?_
    split <;> omega
  refine isSome_onGrid?_of_inside ?_
  rw [Nat.add_mul] at hstep
  rcases Nat.lt_or_ge (4 * b.mantissa * b.fine scale % b.step scale) ((if b.narrowBelow then 1 else 2) * b.fine scale) with hnear | hfar
  · refine .inl (inside_of_bounds ?_ ?_)
    · omega
    · rw [Nat.add_mul]
      omega
  · refine .inr (inside_of_bounds ?_ ?_)
    · rw [Nat.add_mul]
      omega
    · rw [Nat.add_mul, Nat.add_mul]
      omega

/-- The exponent at which the search for the shortest decimal starts. -/
def leading (b : Binary) : Int := leadingExponent b.quarters.1 b.quarters.2

/-- Sixteen digits below the leading one the grid is fine enough. -/
theorem pow_mul_step_le (hb : b.IsDouble) : 10 ^ 16 * b.step (b.leading - 16) ≤ 4 * b.mantissa * b.fine (b.leading - 16) := by
  have hnum : 0 < b.quarters.1 := Nat.mul_pos (Nat.mul_pos (by decide) hb.pos) (Nat.pow_pos (by decide))
  have hden : 0 < b.quarters.2 := Nat.pow_pos (by decide)
  have hlead : 10 ^ b.leading.toNat * b.quarters.2 ≤ b.quarters.1 * 10 ^ (-b.leading).toNat := pow_leadingExponent_le hnum hden
  have hexponents : 16 + (b.leading - 16).toNat + (-b.leading).toNat = b.leading.toNat + (-(b.leading - 16)).toNat := by omega
  have hpowers := congrArg (10 ^ ·) hexponents
  simp only [Nat.pow_add] at hpowers
  have hstep : 10 ^ 16 * b.step (b.leading - 16) = 10 ^ 16 * 10 ^ (b.leading - 16).toNat * b.quarters.2 := by
    simp only [step, quarters, Nat.pow_eq]
    ring
  have hvalue : 4 * b.mantissa * b.fine (b.leading - 16) = b.quarters.1 * 10 ^ (-(b.leading - 16)).toNat := by
    simp only [fine, quarters, Nat.pow_eq]
    ring
  rw [hstep, hvalue]
  refine Nat.le_of_mul_le_mul_right ?_ (Nat.pow_pos (by decide) : 0 < 10 ^ (-b.leading).toNat)
  calc 10 ^ 16 * 10 ^ (b.leading - 16).toNat * b.quarters.2 * 10 ^ (-b.leading).toNat
      _ = 10 ^ 16 * 10 ^ (b.leading - 16).toNat * 10 ^ (-b.leading).toNat * b.quarters.2 := Nat.mul_right_comm _ _ _
      _ = 10 ^ b.leading.toNat * 10 ^ (-(b.leading - 16)).toNat * b.quarters.2 := by rw [hpowers]
      _ = 10 ^ b.leading.toNat * b.quarters.2 * 10 ^ (-(b.leading - 16)).toNat := Nat.mul_right_comm _ _ _
      _ ≤ b.quarters.1 * 10 ^ (-b.leading).toNat * 10 ^ (-(b.leading - 16)).toNat := Nat.mul_le_mul_right _ hlead
      _ = b.quarters.1 * 10 ^ (-(b.leading - 16)).toNat * 10 ^ (-b.leading).toNat := Nat.mul_right_comm _ _ _

/-- The shortest decimal of a double is a grid point that rounds to it, on the coarsest grid that has one. -/
theorem exists_shortest (hb : b.IsDouble) (tie : Tie) : ∃ (more n : Nat), more ≤ 16 ∧
    b.onGrid? tie (b.leading - more) = some n ∧ (∀ fewer < more, b.onGrid? tie (b.leading - (fewer : Nat)) = none) ∧
    b.shortest tie = ⟨dropEndWhile (· == '0') (digits n), b.leading - more + digitCount n - 1⟩ := by
  have hlast : (b.onGrid? tie (b.leading - (16 : Nat))).isSome = true := isSome_onGrid? hb (pow_mul_step_le hb)
  have hfound : ((List.range 17).findSome? fun (more : Nat) =>
      (b.onGrid? tie (b.leading - (more : Int))).map fun n => (n, b.leading - (more : Int))).isSome = true := by
    rw [List.findSome?_isSome_iff]
    refine ⟨16, by decide, ?_⟩
    rw [Option.isSome_map]
    exact hlast
  obtain ⟨⟨n, scale⟩, hn⟩ := Option.isSome_iff_exists.mp hfound
  have hshortest : b.shortest tie = ⟨dropEndWhile (· == '0') (digits n), scale + digitCount n - 1⟩ := by
    unfold shortest
    dsimp only
    rw [show leadingExponent b.quarters.1 b.quarters.2 = b.leading from rfl, hn, Option.getD_some]
  obtain ⟨before, more, after, hrange, hmore, hbefore⟩ := List.findSome?_eq_some_iff.mp hn
  have hmem : more ∈ List.range 17 := hrange ▸ List.mem_append_right before List.mem_cons_self
  have hsorted : (before ++ more :: after).Pairwise (· < ·) := hrange ▸ List.pairwise_lt_range
  obtain ⟨hat, hpair⟩ := Option.map_eq_some_iff.mp hmore
  cases hpair.2
  refine ⟨more, n, Nat.le_of_lt_succ (List.mem_range.mp hmem), hpair.1, fun fewer hfewer => ?_, hshortest⟩
  have hfewerMem : fewer ∈ before ++ more :: after := hrange ▸ List.mem_range.mpr (by have := List.mem_range.mp hmem; omega)
  rcases List.mem_append.mp hfewerMem with hearlier | hlater
  · exact Option.map_eq_none_iff.mp (hbefore fewer hearlier)
  · have hge := (List.pairwise_cons.mp (List.pairwise_append.mp hsorted).2.1).1 fewer
    rcases List.mem_cons.mp hlater with rfl | hafter
    · exact absurd hfewer (Nat.lt_irrefl _)
    · exact absurd hfewer (Nat.not_lt_of_lt (hge hafter))

end Binary

end FlinkSql.Number
