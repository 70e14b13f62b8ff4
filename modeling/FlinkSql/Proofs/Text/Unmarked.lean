import FlinkSql.Proofs.Number.Numeral
import FlinkSql.Proofs.Text.Neutral
import FlinkSql.Time.Interval

/-!
# Numbers and times have no marks

Numbers and times are written bare or between quotes, and are escaped in neither place. That is sound because no quote, bracket
or semicolon is among their characters.
-/

namespace FlinkSql.Text

/-! ## Texts made of unmarked texts -/

/-- A class of characters without marks. -/
theorem not_mark_of_class {p : Char → Bool} (hp : marks.any p = false) {c : Char} (h : p c = true) : c ∉ marks :=
  fun hc => List.any_eq_false.mp hp c hc h

theorem Unmarked.cons {c : Char} {s : List Char} (hc : c ∉ marks) (hs : Unmarked s) : Unmarked (c :: s) :=
  List.forall_mem_cons.mpr ⟨hc, hs⟩

theorem Unmarked.append {s t : List Char} (hs : Unmarked s) (ht : Unmarked t) : Unmarked (s ++ t) :=
  List.forall_mem_append.mpr ⟨hs, ht⟩

/-- A character that is no mark, several times over. -/
theorem unmarked_replicate (n : Nat) {c : Char} (hc : c ∉ marks) : Unmarked (List.replicate n c) := by
  intro d hd
  rw [List.eq_of_mem_replicate hd]
  exact hc

/-- An unmarked text does not end the region between single quotes. -/
theorem Unmarked.held {s : List Char} (h : Unmarked s) : Held (String.ofList s) :=
  held_of_not_mem fun hmem => h singleQuote hmem (by decide)

/-! ## Numbers -/

/-- A written number is unmarked: neither its digits nor its point nor its sign is a mark. -/
theorem unmarked_numeral {s : List Char} (h : Number.Numeral s) : Unmarked s := by
  have hmagnitude : ∀ s, Number.Magnitude s → Unmarked s := fun s h c hc =>
    not_mark_of_class (p := Number.isNumeric) (by decide) (h.numeric c hc)
  cases h with
  | positive h => exact hmagnitude _ h
  | negative h => exact (hmagnitude _ h).cons (by decide)

/-- A number is neutral: it is made of digits, signs, points and letters. -/
theorem neutral_of_numeral {text : String} (h : Number.Numeral text.toList) : Neutral text := by
  rw [← String.ofList_toList (s := text)]
  exact (unmarked_numeral h).neutral

/-- Digits are no marks. -/
theorem unmarked_digits (n : Nat) : Unmarked (Number.digits n) :=
  unmarked_numeral (.positive (Number.magnitude_digits n))

theorem unmarked_padded (width n : Nat) : Unmarked (Number.padded width n) :=
  (unmarked_replicate _ (by decide)).append (unmarked_digits n)

/-- A natural number is neutral. -/
theorem neutral_nat (n : Nat) : Neutral (toString n) := by
  refine neutral_of_numeral ?_
  rw [Number.toList_nat]
  exact .positive (Number.magnitude_digits n)

/-- A whole number is neutral. -/
theorem neutral_int (n : Int) : Neutral (toString n) :=
  neutral_of_numeral (Number.numeral_int n)

/-! ## Times -/

/-- The text of a timestamp has digits, hyphens, colons, points and blanks only. -/
theorem unmarked_timestamp (t : Timestamp) : Unmarked t.sqlText.toList := by
  have hyear : Unmarked (Timestamp.yearText t.year) := by
    unfold Timestamp.yearText
    split_ifs
    · exact unmarked_padded 4 _
    · exact (unmarked_padded 4 _).cons (by decide)
    · exact (unmarked_padded 4 _).cons (by decide)
  have hdate : Unmarked t.dateText :=
    (hyear.append ((unmarked_padded 2 _).cons (by decide))).append ((unmarked_padded 2 _).cons (by decide))
  have htime : Unmarked t.timeText :=
    ((unmarked_padded 2 _).append ((unmarked_padded 2 _).cons (by decide))).append ((unmarked_padded 2 _).cons (by decide))
  rw [Timestamp.sqlText, String.toList_ofList]
  exact hdate.append (htime.cons (by decide))

/-- The text of a timestamp between quotes. -/
theorem held_timestamp (t : Timestamp) : Held t.sqlText := by
  rw [← String.ofList_toList (s := t.sqlText)]
  exact (unmarked_timestamp t).held

/-- An interval literal. -/
theorem neutral_interval (i : Interval) : Neutral i.sql := by
  have hvalue : Held (toString i.value.toNat) := by
    rw [← String.ofList_toList (s := toString i.value.toNat), Number.toList_nat]
    exact (unmarked_digits _).held
  have hunit : Neutral i.unit.keyword := by cases i.unit <;> rfl
  have hopen : Reads ⟨none, []⟩ "INTERVAL '" ⟨some singleQuote, []⟩ := rfl
  have hclose : Shifts [] ("INTERVAL '" ++ toString i.value.toNat ++ "' ") [] := (hopen.append (hvalue [])).append rfl
  exact hclose.then hunit

end FlinkSql.Text
