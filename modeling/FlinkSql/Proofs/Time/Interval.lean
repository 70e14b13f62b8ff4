import FlinkSql.Proofs.Number.Numeral
import FlinkSql.Proofs.Outcome
import FlinkSql.Proofs.Text.Reading
import FlinkSql.Time.Interval

/-!
# Spans as intervals

`Span.IsWhole` says which spans are intervals: a positive number of milliseconds, less than a second or a number of seconds.
`Interval.Measures` says which interval a span is: one of the same length, to the nanosecond, in the largest unit that divides
it. The length of a span is a word of seconds, so the number of units always fits a word, and the SQL tells the span.
-/

namespace FlinkSql

/-- The length in nanoseconds. -/
def Span.length (d : Span) : Nat := d.seconds * 1000000000 + d.nanos

/-- The length of the unit in nanoseconds. -/
def IntervalUnit.length (u : IntervalUnit) : Nat := u.millis * 1000000

/-- The spans that are intervals. -/
structure Span.IsWhole (d : Span) : Prop where
  milliseconds : d.nanos % 1000000 = 0
  positive : 0 < d.millis
  short_or_seconds : d.seconds = 0 ∨ d.nanos = 0

/-- The interval is the span in its largest unit. -/
structure Interval.Measures (i : Interval) (d : Span) : Prop where
  exact : i.value.toNat * i.unit.length = d.length
  positive : 1 ≤ i.value.toNat
  largest : ∀ u : IntervalUnit, u ≠ .millisecond → u.length ∣ d.length → u.length ≤ i.unit.length
  short : i.unit = .millisecond ↔ d.length < IntervalUnit.second.length

/-! ## Spans -/

namespace Span

theorem seconds_le (d : Span) : d.seconds ≤ 18446744073709551615 := Nat.le_of_lt_succ d.seconds_lt

/-- A span is known by its length. -/
theorem length_injective : Function.Injective length := by
  intro d e h
  obtain ⟨seconds, nanos, _, hnanos⟩ := d
  obtain ⟨seconds', nanos', _, hnanos'⟩ := e
  have hlength : seconds * 1000000000 + nanos = seconds' * 1000000000 + nanos' := h
  have hseconds : seconds = seconds' := by omega
  have hrest : nanos = nanos' := by omega
  subst hseconds hrest
  rfl

/-- Without a part of a millisecond, the milliseconds are the whole length. -/
theorem length_eq {d : Span} (h : d.nanos % 1000000 = 0) : d.length = d.millis * 1000000 := by
  unfold length millis
  omega

/-- The last condition in terms of milliseconds. -/
theorem isWhole_iff {d : Span} :
    d.IsWhole ↔ d.nanos % 1000000 = 0 ∧ 0 < d.millis ∧ (d.millis < 1000 ∨ 1000 ∣ d.millis) := by
  have hnanos := d.nanos_lt
  have hsplit : d.nanos % 1000000 = 0 → ((d.seconds = 0 ∨ d.nanos = 0) ↔ (d.millis < 1000 ∨ 1000 ∣ d.millis)) := by
    intro h
    unfold millis
    omega
  constructor
  · rintro ⟨hmillis, hpositive, hshort⟩
    exact ⟨hmillis, hpositive, (hsplit hmillis).mp hshort⟩
  · rintro ⟨hmillis, hpositive, hshort⟩
    exact ⟨hmillis, hpositive, (hsplit hmillis).mpr hshort⟩

end Span

/-! ## Units -/

namespace IntervalUnit

theorem millis_pos (u : IntervalUnit) : 0 < u.millis := by cases u <;> decide

theorem length_pos (u : IntervalUnit) : 0 < u.length := Nat.mul_pos u.millis_pos (by decide)

/-- A unit is known by its length. -/
theorem millis_injective : Function.Injective millis := by
  intro u v h
  cases u <;> cases v <;> first | rfl | exact absurd h (by decide)

/-- No two units have one name. -/
theorem keyword_injective : Function.Injective keyword := by
  intro u v h
  cases u <;> cases v <;> first | rfl | exact absurd h (by decide)

/-- All units but the millisecond are whole seconds. -/
theorem second_dvd_millis {u : IntervalUnit} (h : u ≠ .millisecond) : 1000 ∣ u.millis := by
  cases u with
  | millisecond => exact absurd rfl h
  | _ => decide

end IntervalUnit

namespace Interval

theorem mem_wholeUnits_iff {u : IntervalUnit} : u ∈ wholeUnits ↔ u ≠ .millisecond := by cases u <;> decide

theorem wholeUnits_descending : wholeUnits.Pairwise fun u v => v.millis < u.millis := by decide

/-- The first unit that divides a number of milliseconds is the largest: the units stand in descending order. -/
theorem find?_wholeUnits {n : Nat} {u : IntervalUnit} (h : wholeUnits.find? (fun u => n % u.millis == 0) = some u) :
    u ≠ .millisecond ∧ u.millis ∣ n ∧ ∀ v : IntervalUnit, v ≠ .millisecond → v.millis ∣ n → v.millis ≤ u.millis := by
  obtain ⟨hdvd, before, after, hunits, hbefore⟩ := List.find?_eq_some_iff_append.mp h
  have hmem : u ∈ wholeUnits := List.mem_of_find?_eq_some h
  refine ⟨mem_wholeUnits_iff.mp hmem, Nat.dvd_of_mod_eq_zero (beq_iff_eq.mp hdvd), fun v hv hvdvd => ?_⟩
  have hlater : ∀ w ∈ after, w.millis < u.millis := by
    have hdescending := wholeUnits_descending
    rw [hunits] at hdescending
    exact (List.pairwise_cons.mp (List.pairwise_append.mp hdescending).2.1).1
  have hvmem := mem_wholeUnits_iff.mpr hv
  rw [hunits, List.mem_append, List.mem_cons] at hvmem
  rcases hvmem with hv | rfl | hv
  · have hndvd := hbefore v hv
    rw [Nat.mod_eq_zero_of_dvd hvdvd] at hndvd
    cases hndvd
  · exact Nat.le_refl _
  · exact Nat.le_of_lt (hlater v hv)

theorem find?_wholeUnits_eq_none_iff {n : Nat} : wholeUnits.find? (fun u => n % u.millis == 0) = none ↔ ¬1000 ∣ n := by
  rw [List.find?_eq_none]
  constructor
  · intro h hdvd
    exact h .second (by decide) (beq_iff_eq.mpr (Nat.mod_eq_zero_of_dvd hdvd))
  · intro h u hu hdvd
    have hsecond := IntervalUnit.second_dvd_millis (mem_wholeUnits_iff.mp hu)
    exact h (Nat.dvd_trans hsecond (Nat.dvd_of_mod_eq_zero (beq_iff_eq.mp hdvd)))

/-- There is a unit for the spans of less than a second and for those of whole seconds. -/
theorem unitFor?_eq_none_iff {d : Span} : unitFor? d = none ↔ ¬(d.millis < 1000 ∨ 1000 ∣ d.millis) := by
  rw [unitFor?, Option.or_eq_none_iff, find?_wholeUnits_eq_none_iff]
  split_ifs with h
  · simp [h]
  · simp [h]

/-- What is known of the unit of a span: it divides the span, none of a second or more that divides it is larger, and it is
the millisecond only below one second. -/
theorem unitFor?_eq_some {d : Span} {u : IntervalUnit} (hd : 0 < d.millis) (h : unitFor? d = some u) :
    u.millis ∣ d.millis ∧ (∀ v : IntervalUnit, v ≠ .millisecond → v.millis ∣ d.millis → v.millis ≤ u.millis) ∧
      (u = .millisecond ↔ d.millis < 1000) := by
  rw [unitFor?] at h
  cases hfind : wholeUnits.find? fun u => d.millis % u.millis == 0 with
  | some w =>
    rw [hfind, Option.some_or] at h
    cases h
    obtain ⟨hne, hdvd, hlargest⟩ := find?_wholeUnits hfind
    have hsecond : 1000 ≤ d.millis := Nat.le_of_dvd hd (Nat.dvd_trans (IntervalUnit.second_dvd_millis hne) hdvd)
    exact ⟨hdvd, hlargest, iff_of_false hne (Nat.not_lt.mpr hsecond)⟩
  | none =>
    rw [hfind, Option.none_or] at h
    split_ifs at h with hshort
    cases h
    have hnone := find?_wholeUnits_eq_none_iff.mp hfind
    refine ⟨Nat.one_dvd _, fun v hv hdvd => ?_, iff_of_true rfl hshort⟩
    exact absurd (Nat.dvd_trans (IntervalUnit.second_dvd_millis hv) hdvd) hnone

/-- The number of units fits a word: seconds do, and milliseconds are counted below one second only. -/
theorem quotient_lt {d : Span} {u : IntervalUnit} (hd : 0 < d.millis) (h : unitFor? d = some u) :
    d.millis / u.millis < UInt64.size := by
  have hseconds := d.seconds_le
  have hnanos := d.nanos_lt
  have hsize : UInt64.size = 18446744073709551616 := rfl
  rw [Nat.div_lt_iff_lt_mul u.millis_pos, hsize]
  by_cases hu : u = .millisecond
  · have hshort := (unitFor?_eq_some hd h).2.2.mp hu
    rw [hu, IntervalUnit.millis]
    omega
  · have hunit : 1000 ≤ u.millis := Nat.le_of_dvd u.millis_pos (IntervalUnit.second_dvd_millis hu)
    have hmillis : d.millis < 18446744073709551616 * 1000 := by
      unfold Span.millis
      omega
    exact Nat.lt_of_lt_of_le hmillis (Nat.mul_le_mul_left _ hunit)

/-! ## Reducing a span -/

theorem eq_of_toNat {i j : Interval} (hvalue : i.value.toNat = j.value.toNat) (hunit : i.unit = j.unit) : i = j := by
  obtain ⟨value, unit⟩ := i
  obtain ⟨value', unit'⟩ := j
  rw [mk.injEq]
  exact ⟨UInt64.toNat_inj.mp hvalue, hunit⟩

/-- What a successful reduction has checked and what it gives. -/
theorem ofSpan_eq_ok_iff {d : Span} {i : Interval} :
    ofSpan d = .ok i ↔
      d.nanos % 1000000 = 0 ∧ 0 < d.millis ∧ unitFor? d = some i.unit ∧ i.value.toNat = d.millis / i.unit.millis := by
  unfold ofSpan
  split_ifs with hmillis hzero
  · simp [hmillis]
  · simp [hzero]
  · have hpositive : 0 < d.millis := Nat.pos_of_ne_zero hzero
    rw [not_not] at hmillis
    cases hunit : unitFor? d with
    | none => simp
    | some u =>
      simp only [dif_pos (quotient_lt hpositive hunit), Except.ok.injEq, Option.some.injEq]
      constructor
      · rintro rfl
        exact ⟨hmillis, hpositive, rfl, UInt64.toNat_ofNatLT⟩
      · rintro ⟨-, -, rfl, hvalue⟩
        exact eq_of_toNat (UInt64.toNat_ofNatLT.trans hvalue.symm) rfl

/-- Why a span is refused. That the number of units does not fit a word is never the reason. -/
theorem ofSpan_eq_error {d : Span} {f : Failure} (h : ofSpan d = .error f) :
    f = .interval (.subMillisecond d) ∨ f = .interval (.notPositive d) ∨ f = .interval (.notWhole d) := by
  unfold ofSpan at h
  split_ifs at h with hmillis hzero
  · exact Or.inl (Except.error.inj h).symm
  · exact Or.inr (Or.inl (Except.error.inj h).symm)
  · cases hunit : unitFor? d with
    | none =>
      rw [hunit] at h
      exact Or.inr (Or.inr (Except.error.inj h).symm)
    | some u =>
      simp only [hunit, dif_pos (quotient_lt (Nat.pos_of_ne_zero hzero) hunit)] at h
      cases h

/-- Exactly the spans of `Span.IsWhole` are reduced. -/
theorem succeeds_ofSpan_iff {d : Span} : Succeeds (ofSpan d) ↔ d.IsWhole := by
  rw [Span.isWhole_iff]
  constructor
  · rintro ⟨i, hi⟩
    obtain ⟨hmillis, hpositive, hunit, -⟩ := ofSpan_eq_ok_iff.mp hi
    refine ⟨hmillis, hpositive, Decidable.by_contra fun h => ?_⟩
    rw [unitFor?_eq_none_iff.mpr h] at hunit
    cases hunit
  · rintro ⟨hmillis, hpositive, hshort⟩
    obtain ⟨u, hunit⟩ := Option.ne_none_iff_exists'.mp fun h => unitFor?_eq_none_iff.mp h hshort
    exact ⟨⟨.ofNatLT _ (quotient_lt hpositive hunit), u⟩,
      ofSpan_eq_ok_iff.mpr ⟨hmillis, hpositive, hunit, UInt64.toNat_ofNatLT⟩⟩

/-- What a span is reduced to measures it. -/
theorem measures_of_ofSpan {d : Span} {i : Interval} (h : ofSpan d = .ok i) : i.Measures d := by
  obtain ⟨hmillis, hpositive, hunit, hvalue⟩ := ofSpan_eq_ok_iff.mp h
  obtain ⟨hdvd, hlargest, hshort⟩ := unitFor?_eq_some hpositive hunit
  have hlength := Span.length_eq hmillis
  constructor
  case exact =>
    rw [hlength, hvalue, IntervalUnit.length, ← Nat.mul_assoc, Nat.div_mul_cancel hdvd]
  case positive =>
    rw [hvalue]
    exact Nat.div_pos (Nat.le_of_dvd hpositive hdvd) i.unit.millis_pos
  case largest =>
    intro u hu hdivides
    rw [hlength, IntervalUnit.length] at hdivides
    exact Nat.mul_le_mul_right _ (hlargest u hu (Nat.dvd_of_mul_dvd_mul_right (by decide) hdivides))
  case short =>
    have hsecond : IntervalUnit.second.length = 1000 * 1000000 := rfl
    rw [hshort, hlength, hsecond]
    exact (Nat.mul_lt_mul_right (by decide)).symm

theorem Measures.unit_dvd {d : Span} {i : Interval} (h : i.Measures d) : i.unit.length ∣ d.length := by
  rw [← h.exact]
  exact Nat.dvd_mul_left _ _

/-- One interval at most measures a span. -/
theorem Measures.unique {d : Span} {i j : Interval} (hi : i.Measures d) (hj : j.Measures d) : i = j := by
  have hle : ∀ {i j : Interval}, i.Measures d → j.Measures d → i.unit.length ≤ j.unit.length := by
    intro i j hi hj
    by_cases hunit : i.unit = .millisecond
    · exact Nat.le_of_eq (by rw [hunit, hj.short.mpr (hi.short.mp hunit)])
    · exact hj.largest _ hunit hi.unit_dvd
  have hunit : i.unit = j.unit :=
    IntervalUnit.millis_injective (Nat.eq_of_mul_eq_mul_right (by decide) (Nat.le_antisymm (hle hi hj) (hle hj hi)))
  have hvalue : i.value.toNat = j.value.toNat := by
    refine Nat.eq_of_mul_eq_mul_right i.unit.length_pos ?_
    rw [hi.exact, hunit, hj.exact]
  exact eq_of_toNat hvalue hunit

/-- A span that is measured is reduced. -/
theorem Measures.isWhole {d : Span} {i : Interval} (h : i.Measures d) : d.IsWhole := by
  have hpositive : 0 < d.length := by
    rw [← h.exact]
    exact Nat.mul_pos h.positive i.unit.length_pos
  have hmillis : 1000000 ∣ d.length := Nat.dvd_trans (Nat.dvd_mul_left _ _) h.unit_dvd
  have hshort : d.length < 1000000000 ∨ 1000000000 ∣ d.length := by
    by_cases hunit : i.unit = .millisecond
    · exact Or.inl (h.short.mp hunit)
    · have hsecond : 1000 * 1000000 ∣ i.unit.length :=
        Nat.mul_dvd_mul (IntervalUnit.second_dvd_millis hunit) (Nat.dvd_refl _)
      exact Or.inr (Nat.dvd_trans hsecond h.unit_dvd)
  have hnanos := d.nanos_lt
  have hrest : d.nanos % 1000000 = 0 := by
    unfold Span.length at hmillis
    omega
  refine ⟨hrest, ?_, ?_⟩
  · rw [Span.length_eq hrest] at hpositive
    exact Nat.pos_of_mul_pos_right hpositive
  · unfold Span.length at hshort
    omega

/-! ## The text of an interval -/

/-- Behind the keyword and the quote stand the number and the unit. -/
theorem drop_sql (i : Interval) :
    i.sql.toList.drop 10 = Number.digits i.value.toNat ++ '\'' :: ' ' :: i.unit.keyword.toList := by
  simp only [sql, String.toList_append, Number.toList_nat, List.append_assoc]
  rfl

/-- The number ends at the closing quote, which is no digit. -/
theorem read_sql (i : Interval) :
    (i.sql.toList.drop 10).takeWhile Char.isDigit = Number.digits i.value.toNat ∧
      (i.sql.toList.drop 10).dropWhile Char.isDigit = '\'' :: ' ' :: i.unit.keyword.toList := by
  have hdigits : ∀ c ∈ Number.digits i.value.toNat, c.isDigit = true := fun _ => Number.isDigit_of_mem_digits
  have hquote : ∀ c ∈ ('\'' :: ' ' :: i.unit.keyword.toList).head?, c.isDigit = false := by
    rintro c ⟨⟩
    rfl
  rw [drop_sql]
  exact ⟨Text.takeWhile_append_of_head hdigits hquote, Text.dropWhile_append_of_head hdigits hquote⟩

/-- An interval is known by its SQL. -/
theorem sql_injective : Function.Injective sql := by
  intro i j h
  obtain ⟨hnumber, hrest⟩ := read_sql i
  obtain ⟨hnumber', hrest'⟩ := read_sql j
  rw [h] at hnumber hrest
  have hvalue : i.value.toNat = j.value.toNat := Number.digits_injective (hnumber.symm.trans hnumber')
  have hkeyword : '\'' :: ' ' :: i.unit.keyword.toList = '\'' :: ' ' :: j.unit.keyword.toList := hrest.symm.trans hrest'
  have hunit : i.unit = j.unit :=
    IntervalUnit.keyword_injective (String.toList_inj.mp (List.cons.inj (List.cons.inj hkeyword).2).2)
  exact eq_of_toNat hvalue hunit

end Interval

theorem failure_of_ofSpan {d : Span} {f : Failure} (h : Interval.ofSpan d = .error f) : f.kind = .malformedInterval := by
  rcases Interval.ofSpan_eq_error h with rfl | rfl | rfl
  · rfl
  · rfl
  · rfl

/-- A span is reduced exactly if it is whole, to the one interval that measures it. All others are malformed intervals; none is
too large. The SQL of an interval tells the span. -/
theorem Interval.ofSpan_exact (d : Span) :
    ((∃ i, ofSpan d = .ok i) ↔ d.IsWhole) ∧
    (∀ i, ofSpan d = .ok i ↔ i.Measures d) ∧
    ((∃ f, ofSpan d = .error f ∧ f.kind = .malformedInterval) ↔ ¬d.IsWhole) ∧
    (∀ e, ofSpan d ≠ .error (.interval (.tooLarge e))) ∧
    ∀ e i j, ofSpan d = .ok i → ofSpan e = .ok j → i.sql = j.sql → d = e := by
  refine ⟨succeeds_ofSpan_iff, fun i => ⟨measures_of_ofSpan, fun hi => ?_⟩, ?_, fun e he => ?_, fun e i j hi hj hsql => ?_⟩
  · obtain ⟨j, hj⟩ := succeeds_ofSpan_iff.mpr hi.isWhole
    rw [hj, (measures_of_ofSpan hj).unique hi]
  · rw [← succeeds_ofSpan_iff, not_succeeds_iff]
    exact exists_congr fun f => and_iff_left_of_imp failure_of_ofSpan
  · rcases ofSpan_eq_error he with h | h | h
    · cases h
    · cases h
    · cases h
  · have hdi := (measures_of_ofSpan hi).exact
    have hej := (measures_of_ofSpan hj).exact
    rw [sql_injective hsql] at hdi
    exact Span.length_injective (hdi.symm.trans hej)

/-- Ninety seconds are no whole number of minutes, and no other span has their SQL. -/
theorem Interval.ninety_seconds :
    ∃ d, Span.ofParts? 90 0 = some d ∧ ofSpan d = .ok ⟨90, .second⟩ ∧
      ∀ e j, ofSpan e = .ok j → j.sql = "INTERVAL '90' SECOND" → e = d := by
  have hread : ((Span.ofParts? 90 0).bind fun d => (ofSpan d).toOption) = some ⟨90, .second⟩ := by decide
  obtain ⟨d, hd, hinterval⟩ := Option.bind_eq_some_iff.mp hread
  have hseconds := eq_ok_of_toOption hinterval
  refine ⟨d, hd, hseconds, fun e j hj hsql => ?_⟩
  exact ((Interval.ofSpan_exact _).2.2.2.2 e _ j hseconds hj (Eq.symm (hsql.trans (by decide)))).symm

end FlinkSql
