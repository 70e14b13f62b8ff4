import FlinkSql.Proofs.Expr.Writing
import FlinkSql.Proofs.Name
import FlinkSql.Proofs.Function.Standard
import FlinkSql.Proofs.Text.Ascii
import FlinkSql.Proofs.Text.Reference
import FlinkSql.Proofs.Text.Unmarked

/-!
# Literals outside strings

Names, words and numbers other than decimals are written in ASCII characters that are no quotes. A decimal is accepted with digits
of any script and kept as it is; its characters are ASCII exactly if it has the form of a decimal number in SQL. So that form
is all that a literal needs to be a piece.
-/

namespace FlinkSql

/-! ## Characters -/

namespace Text

/-- Letters and digits as bounds of code points. -/
theorem isAlphanum_iff {c : Char} : c.isAlphanum = true ↔
    ((65 ≤ c.val ∧ c.val ≤ 90) ∨ (97 ≤ c.val ∧ c.val ≤ 122)) ∨ (48 ≤ c.val ∧ c.val ≤ 57) := by
  have hclasses : c.isAlphanum = ((c.isUpper || c.isLower) || c.isDigit) := rfl
  have hclass : ∀ least greatest : UInt32,
      (decide (least ≤ c.val) && decide (c.val ≤ greatest)) = true ↔ least ≤ c.val ∧ c.val ≤ greatest := by
    intro least greatest
    rw [Bool.and_eq_true, decide_eq_true_eq, decide_eq_true_eq]
  have hupper : c.isUpper = true ↔ 65 ≤ c.val ∧ c.val ≤ 90 := decide_eq_true_iff
  rw [hclasses, Bool.or_eq_true, Bool.or_eq_true]
  exact or_congr (or_congr hupper (hclass 97 122)) (hclass 48 57)

/-- The characters of names, words and numbers without a sign are ASCII characters and no quotes. -/
theorem isAsciiUnquoted_of_isLead {c : Char} (h : isLead c = true) : isAsciiUnquoted c = true := by
  have hquote : isQuote c = false := by
    cases hq : isQuote c with
    | false => rfl
    | true =>
      rw [isQuote, Bool.or_eq_true, beq_iff_eq, beq_iff_eq] at hq
      rcases hq with rfl | rfl <;> exact absurd h (by decide)
  have hbelow : ∀ greatest : UInt32, greatest.toNat < 128 → c.val ≤ greatest → isAscii c = true := fun _ hgreatest hc =>
    decide_eq_true (Nat.lt_of_le_of_lt (UInt32.le_iff_toNat_le.mp hc) hgreatest)
  have hascii : isAscii c = true := by
    rw [isLead, Bool.or_eq_true, Bool.or_eq_true, isAlphanum_iff, beq_iff_eq, beq_iff_eq] at h
    rcases h with (((h | h) | h) | rfl) | rfl
    · exact hbelow 90 (by decide) h.2
    · exact hbelow 122 (by decide) h.2
    · exact hbelow 57 (by decide) h.2
    · rfl
    · rfl
  rw [isAsciiUnquoted, hascii, hquote]
  rfl

/-- Of the digits of all scripts, the ASCII characters are the ten digits of ASCII. -/
theorem isDigit_of_isDecimalDigit {c : Char} (h : isDecimalDigit c = true) (hc : isAscii c = true) : c.isDigit = true := by
  have hruns : ∀ run ∈ decimalDigitRuns, run.1 < 128 → run = (48, 57) := by decide
  obtain ⟨run, hrun, hin⟩ := List.any_eq_true.mp h
  rw [Bool.and_eq_true, decide_eq_true_eq, decide_eq_true_eq] at hin
  have hascii : c.toNat < 128 := of_decide_eq_true hc
  cases hruns run hrun (by omega)
  have hlow : (48 : UInt32) ≤ c.val := UInt32.le_iff_toNat_le.mpr hin.1
  have hhigh : c.val ≤ 57 := UInt32.le_iff_toNat_le.mpr hin.2
  rw [Char.isDigit, Bool.and_eq_true, decide_eq_true_eq, decide_eq_true_eq]
  exact ⟨hlow, hhigh⟩

/-- Letters and digits of ASCII may stand in an alias. -/
theorem isLead_of_isAlphanum {c : Char} (h : c.isAlphanum = true) : isLead c = true := by
  rw [isLead, h, Bool.true_or, Bool.true_or]

theorem isAlphanum_of_isUpper {c : Char} (h : c.isUpper = true) : c.isAlphanum = true := by
  rw [show c.isAlphanum = ((c.isUpper || c.isLower) || c.isDigit) from rfl, h, Bool.true_or, Bool.true_or]

theorem isAlphanum_of_isLower {c : Char} (h : c.isLower = true) : c.isAlphanum = true := by
  rw [show c.isAlphanum = ((c.isUpper || c.isLower) || c.isDigit) from rfl, h, Bool.or_true, Bool.true_or]

theorem isAlphanum_of_isDigit {c : Char} (h : c.isDigit = true) : c.isAlphanum = true := by
  rw [show c.isAlphanum = ((c.isUpper || c.isLower) || c.isDigit) from rfl, h, Bool.or_true]

theorem isLead_of_isDigit {c : Char} (h : c.isDigit = true) : isLead c = true := isLead_of_isAlphanum (isAlphanum_of_isDigit h)

/-- The characters of normalized names may stand in an alias. -/
theorem isLead_of_isPlain {c : Char} (h : Name.isPlain c = true) : isLead c = true := by
  rw [Name.isPlain, Bool.or_eq_true, Bool.or_eq_true, beq_iff_eq] at h
  rcases h with (h | h) | rfl
  · exact isLead_of_isAlphanum (isAlphanum_of_isLower h)
  · exact isLead_of_isDigit h
  · decide

/-- The characters of the names of functions may stand in an alias. -/
theorem isLead_of_isWordChar {c : Char} (h : Registry.isWordChar c = true) : isLead c = true := by
  rw [Registry.isWordChar, Bool.or_eq_true, Bool.or_eq_true, beq_iff_eq] at h
  rcases h with (h | h) | rfl
  · exact isLead_of_isAlphanum (isAlphanum_of_isUpper h)
  · exact isLead_of_isDigit h
  · decide

/-- Names, words and numbers without a sign are pieces. -/
theorem asciiPiece_of_lead {text : String} (h : ∀ c ∈ text.toList, isLead c = true) : AsciiPiece text :=
  asciiPiece_of_unquoted fun c hc => isAsciiUnquoted_of_isLead (h c hc)

/-- So are numbers with a sign. -/
theorem asciiPiece_signed {text : String} (sign : Bool) {s : List Char} (h : ∀ c ∈ s, isLead c = true)
    (htext : text.toList = (if sign then "-" else "").toList ++ s) : AsciiPiece text := by
  refine asciiPiece_of_unquoted fun c hc => ?_
  rw [htext] at hc
  rcases List.mem_append.mp hc with hc | hc
  · cases sign with
    | true =>
      cases List.mem_singleton.mp hc
      rfl
    | false => cases hc
  · exact isAsciiUnquoted_of_isLead (h c hc)

end Text

open Text

/-! ## Literals -/

namespace Number

/-- A double is written with digits of ASCII. -/
theorem asciiPiece_numberText {x : Float} (h : isFinite x = true) : AsciiPiece (Literal.numberText x) := by
  rw [Literal.numberText, Layout.write]
  rcases kind_of_isFinite h with hkind | ⟨b, hkind⟩
  · rw [hkind]
    cases isNegative x <;> rfl
  · rw [hkind]
    refine asciiPiece_signed (isNegative x) ?_ (String.toList_append ..)
    intro c hc
    rcases isDigit_or_eq_point rfl (fun _ => isDigit_of_mem_shortest) c hc with hdigit | rfl
    · exact isLead_of_isDigit hdigit
    · decide

/-- A whole number is a piece. -/
theorem asciiPiece_int (n : Int) : AsciiPiece (toString n) := by
  refine asciiPiece_signed (decide (n < 0)) (s := digits n.natAbs) ?_ ?_
  · exact fun c hc => isLead_of_isDigit (isDigit_of_mem_digits hc)
  · rw [toList_int]
    simp only [decide_eq_true_eq]

end Number

namespace Literal

/-- Digits of ASCII, one at least. -/
structure IsAsciiDigits (s : List Char) : Prop where
  nonempty : s ≠ []
  digits : ∀ c ∈ s, c.isDigit = true

/-- The form of a decimal number in SQL: perhaps a minus sign, ASCII digits, and perhaps a point and ASCII digits. -/
def IsSqlDecimal (s : List Char) : Prop :=
  ∃ sign whole fraction, s = sign ++ whole ++ fraction ∧ (sign = [] ∨ sign = ['-']) ∧ IsAsciiDigits whole ∧
    (fraction = [] ∨ ∃ digits, fraction = '.' :: digits ∧ IsAsciiDigits digits)

theorem IsAsciiDigits.unquoted {s : List Char} (h : IsAsciiDigits s) : ∀ c ∈ s, isAsciiUnquoted c = true :=
  fun c hc => isAsciiUnquoted_of_isLead (isLead_of_isDigit (h.digits c hc))

/-- The characters of a decimal of SQL are ASCII and no quotes. -/
theorem IsSqlDecimal.unquoted {s : List Char} (h : IsSqlDecimal s) : ∀ c ∈ s, isAsciiUnquoted c = true := by
  obtain ⟨sign, whole, fraction, rfl, hsign, hwhole, hfraction⟩ := h
  refine List.forall_mem_append.mpr ⟨List.forall_mem_append.mpr ⟨?_, hwhole.unquoted⟩, ?_⟩
  · rcases hsign with rfl | rfl
    · exact List.forall_mem_nil _
    · exact List.forall_mem_singleton.mpr rfl
  · rcases hfraction with rfl | ⟨digits, rfl, hdigits⟩
    · exact List.forall_mem_nil _
    · exact List.forall_mem_cons.mpr ⟨rfl, hdigits.unquoted⟩

/-- Digits of which all are ASCII are ASCII digits. -/
theorem IsDigits.ascii {s : List Char} (h : IsDigits s) (hascii : ∀ c ∈ s, isAscii c = true) : IsAsciiDigits s :=
  ⟨h.nonempty, fun c hc => isDigit_of_isDecimalDigit (h.digits c hc) (hascii c hc)⟩

/-- What is accepted as a decimal has the form of one in SQL if its characters are ASCII, and only then. -/
theorem isSqlDecimal_iff {s : List Char} (h : IsDecimalText s) : IsSqlDecimal s ↔ ∀ c ∈ s, isAscii c = true := by
  have hunsigned : ∀ sign t, (sign = [] ∨ sign = ['-']) → IsUnsignedText t → (∀ c ∈ t, isAscii c = true) →
      IsSqlDecimal (sign ++ t) := by
    intro sign t hsign ht hascii
    cases ht with
    | whole ht => exact ⟨sign, t, [], (List.append_nil _).symm, hsign, ht.ascii hascii, Or.inl rfl⟩
    | @fraction whole digits hwhole hdigits =>
      obtain ⟨hasciiWhole, hasciiRest⟩ := List.forall_mem_append.mp hascii
      refine ⟨sign, whole, '.' :: digits, (List.append_assoc ..).symm, hsign, hwhole.ascii hasciiWhole, Or.inr ⟨digits, rfl, ?_⟩⟩
      exact hdigits.ascii (List.forall_mem_cons.mp hasciiRest).2
  constructor
  · intro hform c hc
    have hunquoted := hform.unquoted c hc
    rw [isAsciiUnquoted, Bool.and_eq_true] at hunquoted
    exact hunquoted.1
  · intro hascii
    cases h with
    | positive h => exact hunsigned [] s (Or.inl rfl) h hascii
    | negative h => exact hunsigned ['-'] _ (Or.inr rfl) h (List.forall_mem_cons.mp hascii).2

/-- A decimal in a form that SQL knows, if the literal is a decimal. -/
def HasSqlForm : Literal → Prop
  | .decimal d => IsSqlDecimal d.toList
  | _ => True

/-- The text of a timestamp does not end the string it stands in. -/
theorem asciiPiece_timestamp (t : Timestamp) : AsciiPiece ("TIMESTAMP '" ++ t.sqlText ++ "'") := by
  have hopen : ReadsAscii none "TIMESTAMP '" (some singleQuote) := rfl
  have hclose : ReadsAscii (some singleQuote) "'" none := rfl
  have hinside : ReadsAscii (some singleQuote) t.sqlText (some singleQuote) :=
    stringPiece_of_not_mem fun hmem => unmarked_timestamp t singleQuote hmem (by decide)
  exact (hopen.append hinside).append hclose

/-- A literal is written as a piece, unless it is a decimal of another form. -/
theorem asciiPiece_sql {v : Literal} (hform : v.HasSqlForm) : Written AsciiPiece v.sql := by
  cases v with
  | null => exact (rfl : AsciiPiece "NULL")
  | boolean b =>
    cases b with
    | true => exact (rfl : AsciiPiece "TRUE")
    | false => exact (rfl : AsciiPiece "FALSE")
  | integer n => exact Number.asciiPiece_int n.toInt
  | float x =>
    rw [sql]
    split
    · rename_i hfinite
      exact Number.asciiPiece_numberText hfinite
    · exact rfl
  | decimal d =>
    rw [sql]
    split
    · exact asciiPiece_of_unquoted (IsSqlDecimal.unquoted hform)
    · exact rfl
  | string s => exact asciiPiece_quotedString s
  | timestamp t => exact asciiPiece_timestamp t

/-- What a literal is written as is ASCII outside strings only if the literal is no decimal of another form. -/
theorem hasSqlForm_of_ascii {v : Literal} {text : String} (h : v.sql = .ok text) (hascii : AsciiOutsideStrings text) :
    v.HasSqlForm := by
  cases v with
  | decimal d =>
    rw [sql] at h
    split at h
    · rename_i hdecimal
      cases h
      have hquote : ∀ c ∈ text.toList, isQuote c = false := by
        intro c hc
        have hmark := unmarked_numeral (numeral_of_isDecimal hdecimal) c hc
        simp only [marks, List.mem_cons, not_or] at hmark
        simp [isQuote, hmark.1, hmark.2.1]
      exact (isSqlDecimal_iff (isDecimal_iff.mp hdecimal)).mpr (hascii.of_unquoted hquote)
    · cases h
  | _ => trivial

end Literal

end FlinkSql
