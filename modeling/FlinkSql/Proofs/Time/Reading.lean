import FlinkSql.Proofs.Number.Numeral
import FlinkSql.Time.Timestamp
import Mathlib.Data.Nat.Digits.Defs

/-!
# Timestamps are read back

Each field of a written timestamp is a run of digits that ends where the next mark stands, so reading takes exactly the fields that
were written. The written form says everything of a timestamp: also which seconds are leap seconds.
-/

namespace FlinkSql

/-! ## Runs of digits -/

namespace Number

/-- A text that does not begin with a digit. -/
def NoDigit (s : List Char) : Prop := ∀ c ∈ s.head?, c.isDigit = false

theorem noDigit_nil : NoDigit [] := nofun

theorem noDigit_cons {c : Char} (h : c.isDigit = false) (s : List Char) : NoDigit (c :: s) := by
  rintro _ ⟨⟩
  exact h

/-- Digits are taken up to the first character that is none. -/
theorem takeWhile_isDigit {ds rest : List Char} (hds : ∀ c ∈ ds, c.isDigit = true) (hrest : NoDigit rest) :
    (ds ++ rest).takeWhile Char.isDigit = ds := by
  rw [List.takeWhile_append_of_pos hds]
  cases rest with
  | nil => rw [List.takeWhile_nil, List.append_nil]
  | cons c rest => rw [List.takeWhile_cons_of_neg (by simp [hrest c rfl]), List.append_nil]

/-- Zeros in front do not matter to the number that digits stand for. -/
theorem ofDigits_padded (width n : Nat) : ofDigits (padded width n) = n := by
  have hzeros : ∀ k, (List.replicate k '0').foldl (fun n c => 10 * n + (c.toNat - '0'.toNat)) 0 = 0 := by
    intro k
    induction k with
    | zero => rfl
    | succ k ih => exact ih
  rw [ofDigits, padded, List.foldl_append, hzeros]
  exact Nat.ofDigitChars_ten_toDigits

/-- A number with zeros in front of it has digits only. -/
theorem isDigit_of_mem_padded {width n : Nat} {c : Char} (h : c ∈ padded width n) : c.isDigit = true := by
  rcases List.mem_append.mp h with h | h
  · rw [List.eq_of_mem_replicate h]
    rfl
  · exact isDigit_of_mem_digits h

/-- A number with zeros in front of it has one digit at least. -/
theorem padded_ne_nil (width n : Nat) : padded width n ≠ [] :=
  List.append_ne_nil_of_right_ne_nil _ Nat.toDigits_ne_nil

/-- A number that fits the width is written with as many digits. -/
theorem length_padded {width n : Nat} (hwidth : 0 < width) (hn : n < 10 ^ width) : (padded width n).length = width := by
  have hdigits : (digits n).length ≤ width := Nat.toDigits_length 10 n width hwidth hn
  rw [padded, List.length_append, List.length_replicate]
  omega

end Number

namespace Timestamp

open Number

variable {rest : List Char}

/-! ## Fields -/

/-- Digits are read up to the rest, if there are not more than the width allows. -/
theorem digits?_append {ds : List Char} {width : Option Nat} (hne : ds ≠ []) (hds : ∀ c ∈ ds, c.isDigit = true)
    (hrest : NoDigit rest) (hwidth : ∀ w ∈ width, ds.length ≤ w) : digits? width (ds ++ rest) = some (ds, rest) := by
  have hempty : ds.isEmpty = false := by simpa using hne
  unfold digits?
  rw [takeWhile_isDigit hds hrest]
  cases width with
  | none => simp [hempty]
  | some w => simp [List.take_of_length_le (hwidth w rfl), hempty]

/-- Digits are no blanks. -/
theorem skipBlanks_digits {ds : List Char} (hne : ds ≠ []) (hds : ∀ c ∈ ds, c.isDigit = true) (rest : List Char) :
    skipBlanks (ds ++ rest) = ds ++ rest := by
  obtain ⟨c, tail, rfl⟩ := List.exists_cons_of_ne_nil hne
  have hblank : Text.isBlank c = false := by
    have hc := hds c List.mem_cons_self
    simp only [Char.isDigit, Bool.and_eq_true, decide_eq_true_eq, ge_iff_le] at hc
    have h1 : 48 ≤ c.toNat := UInt32.le_iff_toNat_le.mp hc.1
    have h2 : c.toNat ≤ 57 := UInt32.le_iff_toNat_le.mp hc.2
    simp [Text.isBlank]
    omega
  rw [skipBlanks, List.cons_append, List.dropWhile_cons_of_neg (by simp [hblank])]

/-- A field of a fixed width. -/
theorem number?_padded {width n : Nat} (hwidth : 0 < width) (hn : n < 10 ^ width) (hrest : NoDigit rest) :
    number? (some width) (padded width n ++ rest) = some (n, rest) := by
  have hds : ∀ c ∈ padded width n, c.isDigit = true := fun _ => isDigit_of_mem_padded
  have hlength : ∀ w ∈ some width, (padded width n).length ≤ w := by
    rintro _ ⟨⟩
    exact Nat.le_of_eq (length_padded hwidth hn)
  rw [number?, skipBlanks_digits (padded_ne_nil _ _) hds, digits?_append (padded_ne_nil _ _) hds hrest hlength]
  simp [ofDigits_padded]

/-- A mark is read where it stands, with no blanks in front of it. -/
theorem mark?_cons {mark : Char} (h : Text.isBlank mark = false) : mark? mark (mark :: rest) = some rest := by
  rw [mark?, skipBlanks, List.dropWhile_cons_of_neg (by simp [h])]
  exact if_pos rfl

/-- A year is read back from its text, also one before or behind those of four digits. -/
theorem year?_yearText (year : Int) (hrest : NoDigit rest) : year? (yearText year ++ rest) = some (year, rest) := by
  have hds : ∀ n, ∀ c ∈ padded 4 n, c.isDigit = true := fun _ _ => isDigit_of_mem_padded
  have hsigned : ∀ n, digits? none (padded 4 n ++ rest) = some (padded 4 n, rest) := fun n =>
    digits?_append (padded_ne_nil _ _) (hds n) hrest nofun
  unfold yearText
  split_ifs with hplain hnegative
  · have hlength : ∀ w ∈ some 4, (padded 4 year.toNat).length ≤ w := by
      rintro _ ⟨⟩
      exact Nat.le_of_eq (length_padded (by decide) (by omega))
    have hread := digits?_append (padded_ne_nil _ _) (hds year.toNat) hrest hlength
    have hskip := skipBlanks_digits (padded_ne_nil _ _) (hds year.toNat) rest
    obtain ⟨c, tail, htext⟩ := List.exists_cons_of_ne_nil (padded_ne_nil 4 year.toNat)
    have hc : c.isDigit = true := hds year.toNat c (by rw [htext]; exact List.mem_cons_self)
    have hminus : c ≠ '-' := by
      rintro rfl
      exact absurd hc (by decide)
    have hplus : c ≠ '+' := by
      rintro rfl
      exact absurd hc (by decide)
    rw [htext, List.cons_append] at hskip hread ⊢
    simp only [year?, hskip, if_neg hminus, if_neg hplus, hread, Option.map_some]
    rw [← htext, ofDigits_padded, Int.toNat_of_nonneg hplain.1]
  · have hskip : skipBlanks ('-' :: padded 4 year.natAbs ++ rest) = '-' :: (padded 4 year.natAbs ++ rest) := rfl
    simp only [year?, hskip, if_true, hsigned, Option.map_some, ofDigits_padded]
    rw [Int.ofNat_natAbs_of_nonpos (by omega), Int.neg_neg]
  · have hskip : skipBlanks ('+' :: padded 4 year.natAbs ++ rest) = '+' :: (padded 4 year.natAbs ++ rest) := rfl
    have hplus : '+' ≠ '-' := by decide
    simp only [year?, hskip, if_neg hplus, if_true, hsigned, Option.map_some, ofDigits_padded]
    rw [Int.natAbs_of_nonneg (by omega)]

/-- Three, six or nine digits tell the nanoseconds. -/
theorem fraction?_fractionText {nanos : Nat} (h : nanos < 1000000000) : fraction? (fractionText nanos) = some (nanos, []) := by
  have hpoint : ∀ width n, 0 < width → width ≤ 9 → n < 10 ^ width →
      fraction? ('.' :: padded width n) = some (n * Nat.pow 10 (9 - width), []) := by
    intro width n hwidth hle hn
    have hds : ∀ c ∈ padded width n, c.isDigit = true := fun _ => isDigit_of_mem_padded
    have hlength := length_padded hwidth hn
    have hbound : ∀ w ∈ some 9, (padded width n).length ≤ w := by
      rintro _ ⟨⟩
      omega
    have hread := digits?_append (padded_ne_nil _ _) hds noDigit_nil hbound
    rw [List.append_nil] at hread
    simp only [fraction?, if_true, hread, Option.bind_eq_bind, Option.bind_some, ofDigits_padded, hlength, List.dropWhile_nil]
  unfold fractionText
  split_ifs with hzero hmillis hmicros
  · rw [hzero]
    rfl
  · rw [hpoint 3 _ (by decide) (by decide) (by omega)]
    congr 2
    show nanos / 1000000 * 1000000 = nanos
    omega
  · rw [hpoint 6 _ (by decide) (by decide) (by omega)]
    congr 2
    show nanos / 1000 * 1000 = nanos
    omega
  · rw [hpoint 9 _ (by decide) (by decide) (by omega)]
    congr 2
    exact Nat.mul_one nanos

/-! ## Timestamps -/

/-- The parts of a timestamp make that timestamp. -/
theorem ofParts?_self (t : Timestamp) : ofParts? t.year t.month t.day t.hour t.minute t.second t.nanos = some t :=
  dif_pos ⟨t.year_range, t.date_valid, t.time_valid, t.nanos_valid⟩

/-- There are twelve months, of 31 days at most. -/
theorem date_lt (t : Timestamp) : t.month < 100 ∧ t.day < 100 := by
  obtain ⟨hfirst, hlast⟩ := t.date_valid
  unfold daysInMonth at hlast
  split_ifs at hlast with hfebruary hleap hshort hlong
  · omega
  · omega
  · simp only [List.mem_cons, List.not_mem_nil, or_false] at hshort
    omega
  · omega
  · omega

/-- A fraction begins with a point, if there is one. -/
theorem noDigit_fractionText (nanos : Nat) : NoDigit (fractionText nanos) := by
  unfold fractionText
  split_ifs
  · exact noDigit_nil
  all_goals exact noDigit_cons rfl _

/-- A leap second is the second 60, and no other second is. -/
theorem ofParts?_writtenSecond (t : Timestamp) :
    (if t.writtenSecond = 60 then ofParts? t.year t.month t.day t.hour t.minute 59 (t.fraction + 1000000000)
      else ofParts? t.year t.month t.day t.hour t.minute t.writtenSecond t.fraction) = some t := by
  obtain ⟨-, -, hsecond⟩ := t.time_valid
  obtain ⟨hnanos, hleap⟩ := t.nanos_valid
  by_cases h : 1000000000 ≤ t.nanos
  · have hwritten : t.writtenSecond = 60 := by rw [writtenSecond, if_pos h, hleap h]
    have hfraction : t.fraction + 1000000000 = t.nanos := by
      rw [fraction]
      omega
    rw [if_pos hwritten, hfraction, ← hleap h]
    exact ofParts?_self t
  · have hwritten : t.writtenSecond = t.second := if_neg h
    have hfraction : t.fraction = t.nanos := Nat.mod_eq_of_lt (by omega)
    rw [hwritten, hfraction, if_neg (by omega)]
    exact ofParts?_self t

/-- A timestamp is read back from its written form. -/
theorem read?_iso (t : Timestamp) : read? t.iso = some t := by
  obtain ⟨hmonth, hday⟩ := t.date_lt
  obtain ⟨hhour, hminute, hsecond⟩ := t.time_valid
  have hwritten : t.writtenSecond < 100 := by
    unfold writtenSecond
    split_ifs <;> omega
  have hfraction : t.fraction < 1000000000 := Nat.mod_lt _ (by decide)
  have htwo : ∀ {n rest}, n < 100 → NoDigit rest → number? (some 2) (padded 2 n ++ rest) = some (n, rest) :=
    fun hn hrest => number?_padded (by decide) hn hrest
  have htext : t.iso.toList = yearText t.year ++ '-' :: (padded 2 t.month ++ '-' :: (padded 2 t.day ++ 'T' ::
      (padded 2 t.hour ++ ':' :: (padded 2 t.minute ++ ':' :: (padded 2 t.writtenSecond ++ fractionText t.fraction))))) := by
    simp only [iso, String.toList_ofList, dateText, timeText, List.append_assoc, List.cons_append]
  have hdash : ∀ s, NoDigit ('-' :: s) := noDigit_cons rfl
  have hmiddle : ∀ s, NoDigit ('T' :: s) := noDigit_cons rfl
  have hcolon : ∀ s, NoDigit (':' :: s) := noDigit_cons rfl
  rw [read?, htext]
  -- what is left of the text after each step is what the step before it left
  refine Option.bind_eq_some_iff.mpr ⟨_, year?_yearText t.year (hdash _), ?_⟩
  refine Option.bind_eq_some_iff.mpr ⟨_, mark?_cons rfl, ?_⟩
  refine Option.bind_eq_some_iff.mpr ⟨_, htwo hmonth (hdash _), ?_⟩
  refine Option.bind_eq_some_iff.mpr ⟨_, mark?_cons rfl, ?_⟩
  refine Option.bind_eq_some_iff.mpr ⟨_, htwo hday (hmiddle _), ?_⟩
  refine Option.bind_eq_some_iff.mpr ⟨_, mark?_cons rfl, ?_⟩
  refine Option.bind_eq_some_iff.mpr ⟨_, htwo (by omega) (hcolon _), ?_⟩
  refine Option.bind_eq_some_iff.mpr ⟨_, mark?_cons rfl, ?_⟩
  refine Option.bind_eq_some_iff.mpr ⟨_, htwo (by omega) (hcolon _), ?_⟩
  refine Option.bind_eq_some_iff.mpr ⟨_, mark?_cons rfl, ?_⟩
  refine Option.bind_eq_some_iff.mpr ⟨_, htwo hwritten (noDigit_fractionText _), ?_⟩
  refine Option.bind_eq_some_iff.mpr ⟨_, fraction?_fractionText hfraction, ?_⟩
  exact ofParts?_writtenSecond t

end Timestamp

end FlinkSql
