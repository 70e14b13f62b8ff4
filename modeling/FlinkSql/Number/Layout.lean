import FlinkSql.Number.Shortest

/-!
# Layouts of decimal numbers

How a format writes the shortest decimal of a double: where it leaves positional notation, what stands after a whole number,
which way ties go, and the texts of what is no number. Each format that writes numbers has one such record.
-/

namespace FlinkSql.Number

/-- The decisions a format makes about writing a double. -/
structure Layout where
  /-- The exponents of the first digit for which the number is written without an exponent. -/
  positional : Int → Bool
  /-- What follows a whole number in positional notation. -/
  afterWhole : String
  /-- Which of two equally short and equally near decimals is written. -/
  tie : Tie
  /-- The text for what is not a number. -/
  nan : String
  /-- The text for infinity, without its sign. -/
  infinity : String
  /-- Whether negative infinity has a sign. -/
  signedInfinity : Bool

namespace Layout

/-- Digits around a decimal point. -/
def positionalText (l : Layout) (d : Decimal) : String :=
  if d.lead < 0 then
    "0." ++ String.ofList (List.replicate (-d.lead - 1).toNat '0' ++ d.digits)
  else
    let whole := d.lead.toNat + 1
    if d.digits.length ≤ whole then
      String.ofList (d.digits ++ List.replicate (whole - d.digits.length) '0') ++ l.afterWhole
    else
      String.ofList (d.digits.take whole) ++ "." ++ String.ofList (d.digits.drop whole)

/-- One digit, the others behind a point, and a signed exponent. -/
def scientificText (d : Decimal) : String :=
  let others := d.digits.drop 1
  let fraction := if others.isEmpty then "" else "." ++ String.ofList others
  let sign := if d.lead < 0 then "-" else "+"
  String.ofList (d.digits.take 1) ++ fraction ++ "e" ++ sign ++ toString d.lead.natAbs

/-- The number without its sign. -/
def magnitude (l : Layout) (b : Binary) : String :=
  let d := b.shortest l.tie
  if l.positional d.lead then l.positionalText d else scientificText d

/-- Writes a double. -/
def write (l : Layout) (x : Float) : String :=
  let sign := if isNegative x then "-" else ""
  match kind x with
  | .nan => l.nan
  | .infinite => (if l.signedInfinity then sign else "") ++ l.infinity
  | .zero => sign ++ "0" ++ l.afterWhole
  | .finite b => sign ++ l.magnitude b

end Layout

end FlinkSql.Number
