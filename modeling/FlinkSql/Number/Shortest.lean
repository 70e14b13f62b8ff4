import FlinkSql.Number.Spelling
import FlinkSql.Text.Character

/-!
# The shortest decimal of a floating point number

A finite double stands for the interval of reals that round to it. The shortest decimal is the one with the fewest digits in
that interval; of several the nearest to the double itself. All of it is computed in exact natural-number arithmetic.
-/

namespace FlinkSql.Number

/-- What becomes of a value half-way between two decimals of the same length. -/
inductive Tie
  /-- The larger of the two. -/
  | up
  /-- The one whose last digit is even. -/
  | even
  deriving DecidableEq, Repr

/-- A positive real number `mantissa * 2 ^ exponent` with the gaps to its neighbours. -/
structure Binary where
  /-- The whole factor. -/
  mantissa : Nat
  /-- The power of two. -/
  exponent : Int
  /-- Whether the next smaller double is only half as far away as the next larger one. -/
  narrowBelow : Bool

/-- A positive decimal: digits without a zero at the end, and the power of ten that the first digit counts. -/
structure Decimal where
  /-- The digits, most significant first. -/
  digits : List Char
  /-- The exponent of the first digit. -/
  lead : Int

/-- The exponent of the first decimal digit of `num / den`, for a positive quotient. -/
def leadingExponent (num den : Nat) : Int :=
  if den ≤ num then (digitCount (num / den) : Int) - 1
  else -(digitCount ((den + num - 1) / num - 1) : Int)

namespace Binary

/-- The value as a fraction of natural numbers, in quarters of `2 ^ exponent` so that the middle between two doubles is a
whole number of them. -/
def quarters (b : Binary) : Nat × Nat :=
  (4 * b.mantissa * Nat.pow 2 (b.exponent - 2).toNat, Nat.pow 2 (2 - b.exponent).toNat)

/-- The multiple of `10 ^ scale` nearest to the value among those that round to it, if one of the two multiples around the value
does. The ends of the interval belong to it when the mantissa is even. -/
def onGrid? (tie : Tie) (b : Binary) (scale : Int) : Option Nat :=
  let fine := Nat.pow 2 (b.exponent - 2).toNat * Nat.pow 10 (-scale).toNat
  let step := Nat.pow 2 (2 - b.exponent).toNat * Nat.pow 10 scale.toNat
  let value := 4 * b.mantissa * fine
  let low := (4 * b.mantissa - if b.narrowBelow then 1 else 2) * fine
  let high := (4 * b.mantissa + 2) * fine
  let inside (n : Nat) : Bool :=
    if b.mantissa % 2 = 0 then low ≤ n * step && n * step ≤ high else low < n * step && n * step < high
  let below := value / step
  let above := below + 1
  match inside below, inside above with
  | true, true =>
    let down := value - below * step
    let up := above * step - value
    if down < up then some below
    else if up < down then some above
    else match tie with
      | .up => some above
      | .even => some (if below % 2 = 0 then below else above)
  | true, false => some below
  | false, true => some above
  | false, false => none

/-- The shortest decimal that rounds to the value. Seventeen digits always suffice. -/
def shortest (tie : Tie) (b : Binary) : Decimal :=
  let (num, den) := b.quarters
  let lead := leadingExponent num den
  let found := (List.range 17).findSome? fun (more : Nat) =>
    let scale := lead - (more : Int)
    (b.onGrid? tie scale).map fun n => (n, scale)
  let (n, scale) := found.getD (0, 0)
  { digits := Text.dropEndWhile (· == '0') (digits n), lead := scale + digitCount n - 1 }

end Binary

/-- What the 64 bits of a double say. -/
inductive Kind
  | nan
  | infinite
  | zero
  | finite (value : Binary)

/-- The number of values of the 52 bits of the fraction. -/
abbrev fractionSize : Nat := 4503599627370496

/-- The number of values of the 11 bits of the exponent. -/
abbrev exponentSize : Nat := 2048

/-- Whether the sign bit is set. -/
def isNegative (x : Float) : Bool := fractionSize * exponentSize ≤ x.toBits.toNat

/-- Decodes the bits of a double, its sign aside. -/
def kind (x : Float) : Kind :=
  let bits := x.toBits.toNat
  let fraction : Nat := bits % fractionSize
  let biased : Nat := bits / fractionSize % exponentSize
  if biased = 2047 then (if fraction = 0 then .infinite else .nan)
  else if biased = 0 then (if fraction = 0 then .zero else .finite ⟨fraction, -1074, false⟩)
  else .finite ⟨fraction + fractionSize, (biased : Int) - 1075, fraction = 0 && biased ≠ 1⟩

/-- Neither infinite nor not a number. -/
def isFinite (x : Float) : Bool := x.toBits.toNat / fractionSize % exponentSize ≠ 2047

end FlinkSql.Number
