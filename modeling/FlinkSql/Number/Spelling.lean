import FlinkSql.Text.Character

/-!
# Spellings of decimal numbers

The digits of natural numbers, the parts of a written number (sign, digits, fraction, exponent), and reading a whole spelling as
the nearest double. Formats differ in which parts they demand; they share the parts.
-/

namespace FlinkSql.Number

/-! ## Digits -/

/-- The digits of `n`, most significant first. -/
def digits (n : Nat) : List Char := Nat.toDigits 10 n

/-- The number that a run of ASCII digits stands for; no digits stand for zero. -/
def ofDigits (s : List Char) : Nat :=
  s.foldl (fun n c => 10 * n + (c.toNat - '0'.toNat)) 0

/-- The digits of `n` with zeros in front, at least `width` of them. -/
def padded (width n : Nat) : List Char :=
  List.replicate (width - (digits n).length) '0' ++ digits n

/-- The number of decimal digits of `n`; one for zero. -/
def digitCount (n : Nat) : Nat := (digits n).length

/-! ## Spellings -/

/-- A written number, taken apart. -/
structure Spelling where
  /-- The sign, if one is written. -/
  sign : Option Char
  /-- The digits before the point. -/
  whole : List Char
  /-- The digits after the point, if there is a point. -/
  fraction : Option (List Char)
  /-- The sign and the digits of the exponent, if there is one. -/
  exponent : Option (Option Char × List Char)

namespace Spelling

/-- Splits off a leading sign. -/
def takeSign : List Char → Option Char × List Char
  | '+' :: rest => (some '+', rest)
  | '-' :: rest => (some '-', rest)
  | rest => (none, rest)

/-- Splits off a fraction: a point and the digits behind it. -/
def takeFraction : List Char → Option (List Char) × List Char
  | '.' :: rest => (some (rest.takeWhile Char.isDigit), rest.dropWhile Char.isDigit)
  | rest => (none, rest)

/-- Splits off an exponent: the letter, a sign and the digits behind it. -/
def takeExponent : List Char → Option (Option Char × List Char) × List Char
  | [] => (none, [])
  | c :: rest =>
    if c = 'e' ∨ c = 'E' then
      let (sign, rest) := takeSign rest
      (some (sign, rest.takeWhile Char.isDigit), rest.dropWhile Char.isDigit)
    else (none, c :: rest)

/-- Takes a text apart; every part may lack its digits. `none` if something else is left over. -/
def ofChars? (s : List Char) : Option Spelling :=
  let (sign, s) := takeSign s
  let whole := s.takeWhile Char.isDigit
  let (fraction, s) := takeFraction (s.dropWhile Char.isDigit)
  let (exponent, s) := takeExponent s
  if s.isEmpty then some ⟨sign, whole, fraction, exponent⟩ else none

/-- Whether a minus sign is written. -/
def negative (n : Spelling) : Bool := n.sign == some '-'

/-- An exponent, if written, has digits. -/
def exponentComplete (n : Spelling) : Bool := n.exponent.all fun e => !e.2.isEmpty

/-- The written exponent, zero if there is none. -/
def exponentValue (n : Spelling) : Int :=
  match n.exponent with
  | none => 0
  | some (some '-', ds) => -(ofDigits ds : Int)
  | some (_, ds) => ofDigits ds

/-- The double nearest to the number. What lies beyond all doubles becomes infinity, what lies below them zero. -/
def toFloat (n : Spelling) : Float :=
  let fraction := n.fraction.getD []
  let mantissa := ofDigits (n.whole ++ fraction)
  let exponent := n.exponentValue - fraction.length
  let lead := exponent + digitCount mantissa
  let magnitude : Float :=
    if mantissa = 0 ∨ lead < -400 then 0
    else if 400 < lead then 1 / 0
    else Float.ofScientific mantissa (decide (exponent < 0)) exponent.natAbs
  if n.negative then -magnitude else magnitude

end Spelling

/-- Reads a double: a decimal number in which the digits before or after the point may be missing, but not both, or one of the
words `inf`, `infinity` and `nan` in any case, with an optional sign. -/
def readFloat? (text : String) : Option Float :=
  let (sign, rest) := Spelling.takeSign text.toList
  let signed (x : Float) : Float := if sign == some '-' then -x else x
  let word := String.ofList rest
  if Text.equalsIgnoringCase word "inf" || Text.equalsIgnoringCase word "infinity" then some (signed (1 / 0))
  else if Text.equalsIgnoringCase word "nan" then some (signed (0 / 0))
  else do
    let n ← Spelling.ofChars? text.toList
    if (n.whole ++ n.fraction.getD []).isEmpty || !n.exponentComplete then none else some n.toFloat

end FlinkSql.Number
