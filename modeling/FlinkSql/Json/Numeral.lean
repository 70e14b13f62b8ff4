import FlinkSql.Json.Value
import FlinkSql.Number.Shortest
import FlinkSql.Number.Spelling

/-!
# Numbers in JSON texts

A number without a point and without an exponent is whole if it fits a 64-bit word, except for minus zero. Every other number
is a double: its leading digits, as many as fit a 64-bit word, times or divided by a power of ten. Both steps round, so the
double is not always the nearest one.
-/

namespace FlinkSql.Json.Numeral

open Number (Spelling)

/-- Whether the number is written as JSON demands: no plus sign, no needless zero in front, and digits in every part. -/
def isWellFormed (n : Spelling) : Bool :=
  n.sign != some '+' && !n.whole.isEmpty && (n.whole.length == 1 || n.whole.head? != some '0') &&
    n.fraction.all (fun ds => !ds.isEmpty) && n.exponentComplete

/-- The leading digits of a number that fit a word, and the power of ten that they count. -/
structure Significand where
  value : Nat
  exponent : Int

/-- Takes in a digit if the word has room for it. -/
def grown? (value : Nat) (digit : Char) : Option Nat :=
  let next := 10 * value + (digit.toNat - '0'.toNat)
  if next < UInt64.size then some next else none

/-- Takes in the digits before the point. From the first that finds no room all are only counted. -/
def wholePart (value : Nat) : List Char → Significand
  | [] => ⟨value, 0⟩
  | d :: rest =>
    match grown? value d with
    | some next => wholePart next rest
    | none => ⟨value, (rest.length + 1 : Nat)⟩

/-- Takes in the digits behind the point, up to the first that finds no room. -/
def fractionPart (s : Significand) : List Char → Significand
  | [] => s
  | d :: rest =>
    match grown? s.value d with
    | some next => fractionPart ⟨next, s.exponent - 1⟩ rest
    | none => s

/-- A power of ten. -/
def power (exponent : Nat) : Float := Float.ofScientific 1 false exponent

/-- The double for a significand; `none` beyond all doubles. Below all doubles it is zero. -/
def scaled? (s : Significand) : Option Float :=
  let f := Float.ofScientific s.value false 0
  if f == 0 then some f
  else if 308 < s.exponent then none
  else if 0 ≤ s.exponent then
    let product := f * power s.exponent.natAbs
    if Number.isFinite product then some product else none
  else if -308 ≤ s.exponent then some (f / power s.exponent.natAbs)
  else if -616 ≤ s.exponent then some (f / power 308 / power (s.exponent + 308).natAbs)
  else some 0

/-- The value of a number with a point, an exponent or too many digits. -/
def floatValue (n : Spelling) : Json :=
  let s := fractionPart (wholePart 0 n.whole) (n.fraction.getD [])
  match scaled? ⟨s.value, s.exponent + n.exponentValue⟩ with
  | some f => .float (if n.negative then -f else f)
  | none => .unreadable

/-- The value of a well-formed number. -/
def value (n : Spelling) : Json :=
  let magnitude := Number.ofDigits n.whole
  if n.fraction.isSome || n.exponent.isSome then floatValue n
  else if n.negative then
    if magnitude ≠ 0 ∧ Int64.minValue.toInt ≤ -(magnitude : Int) then .int (-(magnitude : Int)) else floatValue n
  else if magnitude < UInt64.size then .int magnitude
  else floatValue n

/-- Reads a number. -/
def read? (spelt : List Char) : Option Json := do
  let n ← Spelling.ofChars? spelt
  if isWellFormed n then some (value n) else none

end FlinkSql.Json.Numeral
