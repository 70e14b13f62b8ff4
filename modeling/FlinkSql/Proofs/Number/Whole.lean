import FlinkSql.Proofs.Number.Numeral
import FlinkSql.Proofs.Number.Shortest

/-!
# Whole doubles

A double is a whole number exactly if its shortest decimal is one: no whole number rounds to a double with a fraction, and a whole
double is found among the whole numbers, before any finer grid is looked at. So where nothing stands behind a whole number in
positional notation, the finite doubles with a point are those with a fraction, and the others are written like integers.
-/

namespace FlinkSql.Number

open Text

variable {b : Binary} {tie : Tie}

namespace Binary

/-- The value is a whole number. -/
def IsWhole (b : Binary) : Prop := 2 ^ (-b.exponent).toNat ∣ b.mantissa

/-- A whole double is on the grid of whole numbers. -/
theorem step_dvd (hwhole : b.IsWhole) : b.step 0 ∣ 4 * b.mantissa := by
  have hexponents : (2 - b.exponent).toNat ≤ 2 + (-b.exponent).toNat := by omega
  calc b.step 0
      _ = 2 ^ (2 - b.exponent).toNat := by simp [step]
      _ ∣ 2 ^ (2 + (-b.exponent).toNat) := Nat.pow_dvd_pow 2 hexponents
      _ = 4 * 2 ^ (-b.exponent).toNat := Nat.pow_add 2 2 _
      _ ∣ 4 * b.mantissa := Nat.mul_dvd_mul_left 4 hwhole

/-- A whole double is found among the whole numbers. -/
theorem isSome_onGrid?_zero (hb : b.IsDouble) (hwhole : b.IsWhole) : (b.onGrid? tie 0).isSome = true := by
  have hvalue : 4 * b.mantissa * b.fine 0 / b.step 0 * b.step 0 = 4 * b.mantissa * b.fine 0 :=
    Nat.div_mul_cancel ((step_dvd hwhole).trans (Nat.dvd_mul_right _ _))
  have hpos := hb.pos
  refine isSome_onGrid?_of_inside (Or.inl (inside_of_bounds ?_ ?_))
  · rw [hvalue]
    refine Nat.mul_lt_mul_of_pos_right ?_ (b.fine_pos 0)
    split <;> omega
  · rw [hvalue]
    exact Nat.mul_lt_mul_of_pos_right (by omega) (b.fine_pos 0)

/-- A whole double is at least one. -/
theorem leading_nonneg (hb : b.IsDouble) (hwhole : b.IsWhole) : 0 ≤ b.leading := by
  have hle : b.quarters.2 ≤ b.quarters.1 := by
    have hdvd := step_dvd hwhole
    rw [step, Int.toNat_zero, show Nat.pow 10 0 = 1 from rfl, Nat.mul_one] at hdvd
    calc b.quarters.2
        _ ≤ 4 * b.mantissa := Nat.le_of_dvd (Nat.mul_pos (by decide) hb.pos) hdvd
        _ ≤ b.quarters.1 := Nat.le_mul_of_pos_right _ (Nat.pow_pos (by decide))
  have hcount := digitCount_pos (b.quarters.1 / b.quarters.2)
  rw [leading, leadingExponent, if_pos hle]
  omega

/-- A double that some whole number rounds to is whole. -/
theorem isWhole_of_inside {k : Nat} (h : b.inside 0 k = true) : b.IsWhole := by
  rcases lt_or_ge b.exponent 0 with hneg | hnonneg
  · have hquarter : (b.exponent - 2).toNat = 0 := by omega
    have hexponent : (2 - b.exponent).toNat = 2 + (-b.exponent).toNat := by omega
    have hfine : b.fine 0 = 1 := by rw [fine, hquarter]; rfl
    have hstep : k * b.step 0 = 4 * (2 ^ (-b.exponent).toNat * k) := by
      simp only [step, hexponent, Nat.pow_eq, Int.toNat_zero, Nat.pow_zero, Nat.pow_add]
      ring
    obtain ⟨hlow, hhigh⟩ := bounds_of_inside h
    rw [hfine, hstep, Nat.mul_one] at hlow hhigh
    have hmantissa : b.mantissa = 2 ^ (-b.exponent).toNat * k := by omega
    exact ⟨k, hmantissa⟩
  · have hexponent : (-b.exponent).toNat = 0 := by omega
    rw [IsWhole, hexponent]
    exact Nat.one_dvd _

end Binary

/-- The decimal is a whole number. -/
structure Decimal.IsWhole (d : Decimal) : Prop where
  lead : 0 ≤ d.lead
  length : d.digits.length ≤ d.lead.toNat + 1

/-- The number that a whole decimal stands for. -/
def Decimal.toNat (d : Decimal) : Nat := Nat.ofDigitChars 10 d.digits 0 * 10 ^ (d.lead.toNat + 1 - d.digits.length)

/-- A shortest decimal that is whole stands for a number that rounds to the double, and is written with its digits. -/
theorem toNat_shortest (hb : b.IsDouble) (hwhole : (b.shortest tie).IsWhole) :
    b.inside 0 (b.shortest tie).toNat = true ∧
    digits (b.shortest tie).toNat = (b.shortest tie).digits ++
      List.replicate ((b.shortest tie).lead.toNat + 1 - (b.shortest tie).digits.length) '0' := by
  obtain ⟨more, n, -, hfound, -, hshortest⟩ := Binary.exists_shortest hb tie
  have hinside := Binary.inside_of_onGrid? hfound
  have hstripped : (dropEndWhile (· == '0') (digits n)).length ≤ digitCount n := (isPrefix_dropEndWhile _ _).length_le
  rw [hshortest] at hwhole ⊢
  generalize hscale : b.leading - more = scale at hinside hwhole ⊢
  generalize hd : (⟨dropEndWhile (· == '0') (digits n), scale + digitCount n - 1⟩ : Decimal) = d at hwhole ⊢
  obtain ⟨hlead, hlength⟩ := hwhole
  have hzeros : d.lead.toNat + 1 - d.digits.length + (-scale).toNat = digitCount n - d.digits.length + scale.toNat := by
    subst hd
    dsimp only at hlead hlength ⊢
    omega
  have hvalue : d.toNat * 10 ^ (-scale).toNat = n * 10 ^ scale.toNat := by
    conv_rhs => rw [← ofDigitChars_mul_pow n]
    rw [Decimal.toNat, Nat.mul_assoc, Nat.mul_assoc, ← Nat.pow_add, ← Nat.pow_add, hzeros, ← hd]
  have hn : 0 < n := Binary.pos_of_inside hb hinside
  have hpos : 0 < d.toNat := Nat.pos_of_mul_pos_right (hvalue ▸ Nat.mul_pos hn (Nat.pow_pos (by decide)))
  refine ⟨(Binary.inside_congr hvalue).trans hinside, ?_⟩
  -- both are the digits of one number, with as many zeros behind them
  refine List.append_cancel_right (?_ : _ ++ List.replicate (-scale).toNat '0' = _)
  calc digits d.toNat ++ List.replicate (-scale).toNat '0'
      _ = digits (d.toNat * 10 ^ (-scale).toNat) := (digits_mul_pow hpos _).symm
      _ = digits n ++ List.replicate scale.toNat '0' := by rw [hvalue, digits_mul_pow hn]
      _ = d.digits ++ (List.replicate (digitCount n - d.digits.length) '0' ++ List.replicate scale.toNat '0') := by
        rw [← List.append_assoc, ← hd, ← digits_eq_append]
      _ = _ := by rw [List.replicate_append_replicate, ← hzeros, ← List.replicate_append_replicate, List.append_assoc]

/-- The shortest decimal of a double is whole exactly if the double is. -/
theorem isWhole_shortest_iff (hb : b.IsDouble) : (b.shortest tie).IsWhole ↔ b.IsWhole := by
  refine ⟨fun h => Binary.isWhole_of_inside (toNat_shortest hb h).1, fun hwhole => ?_⟩
  obtain ⟨more, n, -, -, hcoarser, hshortest⟩ := Binary.exists_shortest hb tie
  have hleading := Binary.leading_nonneg hb hwhole
  have hmore : (more : Int) ≤ b.leading := by
    by_contra hlt
    have hnone := hcoarser b.leading.toNat (by omega)
    rw [Int.toNat_of_nonneg hleading, Int.sub_self] at hnone
    have hsome : (b.onGrid? tie 0).isSome = true := Binary.isSome_onGrid?_zero hb hwhole
    rw [hnone] at hsome
    cases hsome
  have hcount := digitCount_pos n
  have hstripped : (dropEndWhile (· == '0') (digits n)).length ≤ digitCount n := (isPrefix_dropEndWhile _ _).length_le
  rw [hshortest]
  refine ⟨?_, ?_⟩
  · dsimp only
    omega
  · dsimp only
    omega

/-! ## Texts -/

/-- In positional notation a decimal has a point unless it is a whole number. -/
theorem point_mem_positionalText_iff {l : Layout} (hl : l.afterWhole = "") {d : Decimal} (hd : ∀ c ∈ d.digits, c.isDigit = true) :
    '.' ∈ (l.positionalText d).toList ↔ ¬d.IsWhole := by
  have hpoint : ∀ n, '.' ∉ d.digits ++ List.replicate n '0' := by
    intro n hmem
    rcases List.mem_append.mp hmem with hmem | hmem
    · exact absurd (hd _ hmem) (by decide)
    · exact absurd (List.eq_of_mem_replicate hmem) (by decide)
  simp only [Layout.positionalText]
  split
  · rename_i hlead
    refine iff_of_true ?_ fun h => absurd h.lead (Int.not_le.mpr hlead)
    rw [String.toList_append]
    exact List.mem_append_left _ (by decide)
  · rename_i hlead
    split
    · rename_i hlength
      rw [hl, String.append_empty, String.toList_ofList]
      exact iff_of_false (hpoint _) fun h => h ⟨Int.not_lt.mp hlead, hlength⟩
    · rename_i hlength
      refine iff_of_true ?_ fun h => absurd h.length hlength
      rw [String.toList_append, String.toList_append]
      exact List.mem_append_left _ (List.mem_append_right _ (by decide))

/-- A shortest decimal that is whole is written as the number that it stands for. -/
theorem toList_positionalText {l : Layout} (hl : l.afterWhole = "") (hb : b.IsDouble) (hwhole : (b.shortest tie).IsWhole) :
    (l.positionalText (b.shortest tie)).toList = digits (b.shortest tie).toNat := by
  rw [(toNat_shortest hb hwhole).2]
  simp only [Layout.positionalText]
  rw [if_neg (Int.not_lt.mpr hwhole.lead), if_pos hwhole.length, hl, String.append_empty, String.toList_ofList]

/-- The double is a whole number. -/
def IsWhole (x : Float) : Prop :=
  match kind x with
  | .zero => True
  | .finite b => b.IsWhole
  | .nan => False
  | .infinite => False

/-- In SQL a finite double has a point unless it is a whole number. -/
theorem point_mem_numberText_iff {x : Float} (h : isFinite x = true) : '.' ∈ (Literal.numberText x).toList ↔ ¬IsWhole x := by
  have hsign : '.' ∉ (if isNegative x then "-" else "").toList := by cases isNegative x <;> decide
  rw [Literal.numberText, Layout.write, IsWhole]
  rcases kind_of_isFinite h with hkind | ⟨b, hkind⟩
  · rw [hkind]
    refine iff_of_false ?_ fun h => h trivial
    cases isNegative x <;> decide
  · rw [hkind, String.toList_append, List.mem_append, or_iff_right hsign]
    exact (point_mem_positionalText_iff rfl fun _ => isDigit_of_mem_shortest).trans (isWhole_shortest_iff (isDouble_of_kind hkind)).not

/-- The double is whole, and the integer is its shortest decimal. -/
def IsShortest (n : Int) (x : Float) : Prop :=
  match kind x with
  | .zero => n = 0 ∧ isNegative x = false
  | .finite b => (n < 0 ↔ isNegative x = true) ∧ b.IsWhole ∧ n.natAbs = (b.shortest Literal.numberLayout.tie).toNat
  | .nan => False
  | .infinite => False

/-- An integer is written like a double exactly if it is its shortest decimal. -/
theorem toString_eq_numberText_iff {n : Int} {x : Float} (h : isFinite x = true) :
    toString n = Literal.numberText x ↔ IsShortest n x := by
  rw [← String.toList_inj, toList_int, Literal.numberText, Layout.write, IsShortest]
  rcases kind_of_isFinite h with hkind | ⟨b, hkind⟩
  · rw [hkind, String.toList_append, String.toList_append, List.append_assoc]
    constructor
    · intro hchars
      have hzero : Magnitude ['0'] := ⟨List.cons_ne_nil _ _, List.forall_mem_singleton.mpr (by decide)⟩
      obtain ⟨hsign, hdigits⟩ := (magnitude_digits n.natAbs).signed_injective hzero hchars
      have hn : n = 0 := Int.natAbs_eq_zero.mp (digits_injective hdigits)
      exact ⟨hn, Bool.eq_false_iff.mpr fun hneg => absurd (hsign.mpr hneg) (by omega)⟩
    · rintro ⟨rfl, hsign⟩
      rw [hsign]
      rfl
  · have hb := isDouble_of_kind hkind
    have hmagnitude : Magnitude (Literal.numberLayout.magnitude b).toList :=
      magnitude_positionalText rfl fun _ => isDigit_of_mem_shortest
    rw [hkind, String.toList_append]
    show _ ↔ (n < 0 ↔ isNegative x = true) ∧ b.IsWhole ∧ n.natAbs = (b.shortest Literal.numberLayout.tie).toNat
    rw [← isWhole_shortest_iff hb]
    constructor
    · intro hchars
      obtain ⟨hsign, hdigits⟩ := (magnitude_digits n.natAbs).signed_injective hmagnitude hchars
      have hpoint : '.' ∉ (Literal.numberLayout.magnitude b).toList :=
        fun hmem => absurd (isDigit_of_mem_digits (hdigits ▸ hmem)) (by decide)
      have hwhole := not_not.mp ((point_mem_positionalText_iff rfl fun _ => isDigit_of_mem_shortest).not.mp hpoint)
      exact ⟨hsign, hwhole, digits_injective (hdigits.trans (toList_positionalText rfl hb hwhole))⟩
    · rintro ⟨hsign, hwhole, hn⟩
      have htext : (Literal.numberLayout.magnitude b).toList = digits n.natAbs := by
        rw [hn]
        exact toList_positionalText rfl hb hwhole
      rw [htext, if_congr hsign rfl rfl]

end FlinkSql.Number
