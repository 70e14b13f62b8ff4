import FlinkSql.Proofs.Number.Whole
import FlinkSql.Proofs.Text.AsciiLiteral

/-!
# The kinds of literals in SQL

The first characters of a literal's text tell words, strings, points in time and numbers apart. The kinds of numbers share their form:
a decimal keeps the caller's text, and a double is written without a point if it is whole. So numbers of different kinds may be
written alike; then they are the same number, up to the precision of a double, and with a fraction none is written as an integer.
-/

namespace FlinkSql.Literal

open Text Number

/-- The kind of a literal. -/
inductive Kind
  | null
  | boolean
  | integer
  | float
  | decimal
  | string
  | timestamp
  deriving DecidableEq, Repr

/-- The kind of the literal. -/
def kind : Literal → Kind
  | .null => .null
  | .boolean _ => .boolean
  | .integer _ => .integer
  | .float _ => .float
  | .decimal _ => .decimal
  | .string _ => .string
  | .timestamp _ => .timestamp

/-- What the beginning of a literal's text tells. -/
inductive Shape
  | null
  | boolean
  | number
  | string
  | timestamp
  deriving DecidableEq, Repr

/-- The shape in which a kind is written. -/
def Kind.shape : Kind → Shape
  | .null => .null
  | .boolean => .boolean
  | .integer => .number
  | .float => .number
  | .decimal => .number
  | .string => .string
  | .timestamp => .timestamp

/-- The shape of a text, by its first two characters. -/
def shapeOf : List Char → Shape
  | 'N' :: _ => .null
  | 'T' :: 'R' :: _ => .boolean
  | 'F' :: _ => .boolean
  | '\'' :: _ => .string
  | 'T' :: _ => .timestamp
  | _ => .number

/-- A number begins like no word and no string. -/
theorem shapeOf_numeral {s : List Char} (h : Numeral s) : shapeOf s = .number := by
  have hfirst (c : Char) (hnumeric : isNumeric c = false) (hsign : c ≠ '-') : s.head? ≠ some c := h.head?_ne hnumeric hsign
  unfold shapeOf
  split
  · exact absurd rfl (hfirst 'N' (by decide) (by decide))
  · exact absurd rfl (hfirst 'T' (by decide) (by decide))
  · exact absurd rfl (hfirst 'F' (by decide) (by decide))
  · exact absurd rfl (hfirst '\'' (by decide) (by decide))
  · exact absurd rfl (hfirst 'T' (by decide) (by decide))
  · rfl

/-- A literal is written in the shape of its kind. -/
theorem shapeOf_sql {v : Literal} {text : String} (h : v.sql = .ok text) : shapeOf text.toList = v.kind.shape := by
  cases v with
  | null =>
    cases h
    rfl
  | boolean b =>
    cases b with
    | true =>
      cases h
      rfl
    | false =>
      cases h
      rfl
  | integer n =>
    cases h
    exact shapeOf_numeral (numeral_int _)
  | float x =>
    rw [sql] at h
    split at h
    · rename_i hfinite
      cases h
      exact shapeOf_numeral (numeral_numberText hfinite)
    · cases h
  | decimal d =>
    rw [sql] at h
    split at h
    · rename_i hdecimal
      cases h
      exact shapeOf_numeral (numeral_of_isDecimal hdecimal)
    · cases h
  | string s =>
    cases h
    rw [quotedString, quoted, String.toList_ofList]
    rfl
  | timestamp t =>
    cases h
    rw [String.toList_append, String.toList_append]
    rfl

/-! ## Numbers -/

/-- Numbers of different kinds that are written alike. -/
inductive Coincide : Literal → Literal → Prop
  /-- The double is whole, and the integer is its shortest decimal. -/
  | integerFloat {n : Int64} {x : Float} (h : IsShortest n.toInt x) : Coincide (.integer n) (.float x)
  /-- The text of the decimal is the numeral of the integer. -/
  | integerDecimal {n : Int64} {d : String} (htext : toString n.toInt = d) : Coincide (.integer n) (.decimal d)
  /-- The text of the decimal is the shortest decimal of the double. -/
  | floatDecimal {x : Float} {d : String} (htext : numberText x = d) : Coincide (.float x) (.decimal d)

/-- A whole number is written with its digits. -/
theorem sql_integer {n : Int64} {text : String} (h : (integer n).sql = .ok text) : text = toString n.toInt := by
  cases h
  rfl

/-- A double is written if it is finite. -/
theorem sql_float {x : Float} {text : String} (h : (float x).sql = .ok text) : isFinite x = true ∧ text = numberText x := by
  rw [sql] at h
  split at h
  · rename_i hfinite
    cases h
    exact ⟨hfinite, rfl⟩
  · cases h

/-- A decimal is written as it stands, if it has the form of one. -/
theorem sql_decimal {d text : String} (h : (decimal d).sql = .ok text) : isDecimal d = true ∧ text = d := by
  rw [sql] at h
  split at h
  · rename_i hdecimal
    cases h
    exact ⟨hdecimal, rfl⟩
  · cases h

/-- Literals that coincide are written alike, if they are written at all. -/
theorem Coincide.eq {v w : Literal} {s t : String} (h : Coincide v w) (hv : v.sql = .ok s) (hw : w.sql = .ok t) : s = t := by
  cases h with
  | integerFloat h =>
    obtain ⟨hfinite, rfl⟩ := sql_float hw
    rw [sql_integer hv, (toString_eq_numberText_iff hfinite).mpr h]
  | integerDecimal htext => rw [sql_integer hv, (sql_decimal hw).2, htext]
  | floatDecimal htext => rw [(sql_float hv).2, (sql_decimal hw).2, htext]

/-- Literals of different kinds that are written alike are numbers, and coincide. -/
theorem coincide_of_sql {v w : Literal} {text : String} (hv : v.sql = .ok text) (hw : w.sql = .ok text) (hkind : v.kind ≠ w.kind) :
    Coincide v w ∨ Coincide w v := by
  have hshape : v.kind.shape = w.kind.shape := (shapeOf_sql hv).symm.trans (shapeOf_sql hw)
  have hfloat {n : Int64} {x : Float} (hn : (integer n).sql = .ok text) (hx : (float x).sql = .ok text) :
      Coincide (.integer n) (.float x) := by
    obtain ⟨hfinite, htext⟩ := sql_float hx
    rw [sql_integer hn] at htext
    exact .integerFloat ((toString_eq_numberText_iff hfinite).mp htext)
  have hdecimal {n : Int64} {d : String} (hn : (integer n).sql = .ok text) (hd : (decimal d).sql = .ok text) :
      Coincide (.integer n) (.decimal d) := .integerDecimal ((sql_integer hn).symm.trans (sql_decimal hd).2)
  have hfloatDecimal {x : Float} {d : String} (hx : (float x).sql = .ok text) (hd : (decimal d).sql = .ok text) :
      Coincide (.float x) (.decimal d) := .floatDecimal ((sql_float hx).2.symm.trans (sql_decimal hd).2)
  -- two kinds have one shape only if they are kinds of numbers
  cases v <;> cases w <;> first | exact absurd rfl hkind | cases hshape
  · exact Or.inl (hfloat hv hw)
  · exact Or.inl (hdecimal hv hw)
  · exact Or.inr (hfloat hw hv)
  · exact Or.inl (hfloatDecimal hv hw)
  · exact Or.inr (hdecimal hw hv)
  · exact Or.inr (hfloatDecimal hw hv)

/-! ## Integers of SQL -/

/-- The form of an integer in SQL: perhaps a minus sign, and ASCII digits. -/
def IsSqlInteger (s : List Char) : Prop := ∃ sign digits, s = sign ++ digits ∧ (sign = [] ∨ sign = ['-']) ∧ IsAsciiDigits digits

/-- A number without a fraction. -/
def IsWhole : Literal → Prop
  | .integer _ => True
  | .float x => Number.IsWhole x
  | .decimal d => '.' ∉ d.toList
  | _ => False

/-- A whole number of SQL is a number. -/
theorem IsSqlInteger.numeral {s : List Char} (h : IsSqlInteger s) : Numeral s := by
  obtain ⟨sign, digits, rfl, hsign, hdigits⟩ := h
  have hmagnitude : Magnitude digits := ⟨hdigits.nonempty, fun c hc => isNumeric_of_isDigit (hdigits.digits c hc)⟩
  rcases hsign with rfl | rfl
  · exact .positive hmagnitude
  · exact .negative hmagnitude

/-- A whole number of SQL has no point. -/
theorem IsSqlInteger.point_not_mem {s : List Char} (h : IsSqlInteger s) : '.' ∉ s := by
  obtain ⟨sign, digits, rfl, hsign, hdigits⟩ := h
  rw [List.mem_append, not_or]
  refine ⟨?_, fun hmem => absurd (hdigits.digits '.' hmem) (by decide)⟩
  rcases hsign with rfl | rfl <;> decide

/-- Only numbers without a fraction are written as integers. -/
theorem isWhole_of_isSqlInteger {v : Literal} {text : String} (h : v.sql = .ok text) (hinteger : IsSqlInteger text.toList) :
    v.IsWhole := by
  have hshape : .number = v.kind.shape := (shapeOf_numeral hinteger.numeral).symm.trans (shapeOf_sql h)
  have hpoint := hinteger.point_not_mem
  cases v with
  | integer n => trivial
  | float x =>
    obtain ⟨hfinite, rfl⟩ := sql_float h
    exact not_not.mp fun hfraction => hpoint ((point_mem_numberText_iff hfinite).mpr hfraction)
  | decimal d =>
    obtain ⟨-, rfl⟩ := sql_decimal h
    exact hpoint
  | null => cases hshape
  | boolean b => cases hshape
  | string s => cases hshape
  | timestamp t => cases hshape

/-- Literals of different kinds are written differently but for numbers that coincide; and with a fraction none is written as an
integer. -/
theorem sql_tells_kind {v : Literal} {s : String} (hv : v.sql = .ok s) :
    (∀ w t, w.sql = .ok t → v.kind ≠ w.kind → (s = t ↔ Coincide v w ∨ Coincide w v)) ∧
    (IsSqlInteger s.toList → v.IsWhole) := by
  refine ⟨fun w t hw hkind => ⟨?_, ?_⟩, isWhole_of_isSqlInteger hv⟩
  · rintro rfl
    exact coincide_of_sql hv hw hkind
  · rintro (h | h)
    · exact h.eq hv hw
    · exact (h.eq hw hv).symm

/-- A price is told from the integer in front of its point, and is no integer of SQL. -/
theorem sql_tells_kind_price :
    (decimal "19.99").sql = .ok "19.99" ∧ (integer 19).sql = .ok "19" ∧
    ("19.99" = "19" ↔ Coincide (.decimal "19.99") (.integer 19) ∨ Coincide (.integer 19) (.decimal "19.99")) ∧
    ¬IsSqlInteger "19.99".toList := by
  have hdecimal : (decimal "19.99").sql = .ok "19.99" := by rw [sql, if_pos (by decide)]
  have hinteger : (integer 19).sql = .ok "19" := rfl
  obtain ⟨htells, hwhole⟩ := sql_tells_kind hdecimal
  exact ⟨hdecimal, hinteger, htells _ _ hinteger (by decide), fun h => absurd (hwhole h) (not_not.mpr (by decide))⟩

/-- A decimal without a fraction is written like an integer. -/
theorem sql_decimal_like_integer :
    (decimal "5").kind ≠ (integer 5).kind ∧ (decimal "5").sql = .ok "5" ∧ (integer 5).sql = .ok "5" := by
  refine ⟨by decide, ?_, rfl⟩
  rw [sql, if_pos (by decide)]

end FlinkSql.Literal
