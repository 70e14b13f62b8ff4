import FlinkSql.Number.Spelling
import FlinkSql.Text.Character

/-!
# Timestamps

A date of the proleptic Gregorian calendar with a time of day, without a time zone. A leap second is the second 59 with a
billion nanoseconds or more; it is written as the second 60. A timestamp has one written form, and is read with blanks allowed
around its fields.
-/

namespace FlinkSql

/-- Whether a year has a 29th of February. -/
def isLeapYear (year : Int) : Bool :=
  year % 4 == 0 && (year % 100 != 0 || year % 400 == 0)

/-- The number of days of a month; zero if there is no such month. -/
def daysInMonth (year : Int) (month : Nat) : Nat :=
  if month = 2 then (if isLeapYear year then 29 else 28)
  else if month ∈ [4, 6, 9, 11] then 30
  else if 1 ≤ month ∧ month ≤ 12 then 31
  else 0

/-- A date and a time of day. -/
structure Timestamp where
  year : Int
  month : Nat
  day : Nat
  hour : Nat
  minute : Nat
  second : Nat
  /-- Nanoseconds of the second; a billion or more in a leap second. -/
  nanos : Nat
  year_range : -262143 ≤ year ∧ year ≤ 262142 := by decide
  date_valid : 1 ≤ day ∧ day ≤ daysInMonth year month := by decide
  time_valid : hour < 24 ∧ minute < 60 ∧ second < 60 := by decide
  nanos_valid : nanos < 2000000000 ∧ (1000000000 ≤ nanos → second = 59) := by decide
  deriving DecidableEq

namespace Timestamp

/-- The timestamp with the given parts, if they make one. -/
def ofParts? (year : Int) (month day hour minute second nanos : Nat) : Option Timestamp :=
  if h : (-262143 ≤ year ∧ year ≤ 262142) ∧ (1 ≤ day ∧ day ≤ daysInMonth year month) ∧
      (hour < 24 ∧ minute < 60 ∧ second < 60) ∧ nanos < 2000000000 ∧ (1000000000 ≤ nanos → second = 59) then
    some ⟨year, month, day, hour, minute, second, nanos, h.1, h.2.1, h.2.2.1, h.2.2.2⟩
  else none

/-! ## Writing -/

/-- Four digits at least; outside the years 0 to 9999 with a sign. -/
def yearText (year : Int) : List Char :=
  if 0 ≤ year ∧ year ≤ 9999 then Number.padded 4 year.toNat
  else (if year < 0 then '-' else '+') :: Number.padded 4 year.natAbs

/-- The second as it is written: a leap second is the second 60. -/
def writtenSecond (t : Timestamp) : Nat := if 1000000000 ≤ t.nanos then t.second + 1 else t.second

/-- The fraction of the second, in nanoseconds. -/
def fraction (t : Timestamp) : Nat := t.nanos % 1000000000

/-- Year, month and day. -/
def dateText (t : Timestamp) : List Char :=
  yearText t.year ++ '-' :: Number.padded 2 t.month ++ '-' :: Number.padded 2 t.day

/-- Hour, minute and second. -/
def timeText (t : Timestamp) : List Char :=
  Number.padded 2 t.hour ++ ':' :: Number.padded 2 t.minute ++ ':' :: Number.padded 2 t.writtenSecond

/-- The fraction of the second in three, six or nine digits, the fewest that are exact; nothing if it is zero. -/
def fractionText (nanos : Nat) : List Char :=
  if nanos = 0 then []
  else if nanos % 1000000 = 0 then '.' :: Number.padded 3 (nanos / 1000000)
  else if nanos % 1000 = 0 then '.' :: Number.padded 6 (nanos / 1000)
  else '.' :: Number.padded 9 nanos

/-- The timestamp as a reader sees it. -/
def text (t : Timestamp) : String :=
  String.ofList (t.dateText ++ ' ' :: t.timeText ++ fractionText t.fraction)

/-- The timestamp in snapshots. -/
def iso (t : Timestamp) : String :=
  String.ofList (t.dateText ++ 'T' :: t.timeText ++ fractionText t.fraction)

/-- The timestamp in SQL, without the fraction of the second. -/
def sqlText (t : Timestamp) : String :=
  String.ofList (t.dateText ++ ' ' :: t.timeText)

/-! ## Reading -/

/-- Drops blanks. -/
def skipBlanks (s : List Char) : List Char := s.dropWhile Text.isBlank

/-- Reads digits, one at least, and `width` at most if a width is given. -/
def digits? (width : Option Nat) (s : List Char) : Option (List Char × List Char) :=
  let run := s.takeWhile Char.isDigit
  let taken := match width with
    | none => run
    | some w => run.take w
  if taken.isEmpty then none else some (taken, s.drop taken.length)

/-- Reads a number of at most `width` digits behind blanks. -/
def number? (width : Option Nat) (s : List Char) : Option (Nat × List Char) := do
  let (ds, rest) ← digits? width (skipBlanks s)
  some (Number.ofDigits ds, rest)

/-- Reads the character `mark` behind blanks. -/
def mark? (mark : Char) (s : List Char) : Option (List Char) :=
  match skipBlanks s with
  | [] => none
  | c :: rest => if c = mark then some rest else none

/-- Reads a year: four digits at most, or a sign and any number of digits. -/
def year? (s : List Char) : Option (Int × List Char) :=
  match skipBlanks s with
  | [] => none
  | c :: rest =>
    if c = '-' then (digits? none rest).map fun (ds, rest) => (-(Number.ofDigits ds : Int), rest)
    else if c = '+' then (digits? none rest).map fun (ds, rest) => ((Number.ofDigits ds : Int), rest)
    else (digits? (some 4) (c :: rest)).map fun (ds, rest) => ((Number.ofDigits ds : Int), rest)

/-- Reads a fraction of a second in nanoseconds; digits beyond the ninth are dropped. No point means no fraction. -/
def fraction? (s : List Char) : Option (Nat × List Char) :=
  match s with
  | [] => some (0, [])
  | c :: rest =>
    if c = '.' then do
      let (ds, rest) ← digits? (some 9) rest
      some (Number.ofDigits ds * Nat.pow 10 (9 - ds.length), rest.dropWhile Char.isDigit)
    else some (0, c :: rest)

/-- Reads a date and a time with `T` between them. -/
def read? (text : String) : Option Timestamp := do
  let (year, s) ← year? text.toList
  let s ← mark? '-' s
  let (month, s) ← number? (some 2) s
  let s ← mark? '-' s
  let (day, s) ← number? (some 2) s
  let s ← mark? 'T' s
  let (hour, s) ← number? (some 2) s
  let s ← mark? ':' s
  let (minute, s) ← number? (some 2) s
  let s ← mark? ':' s
  let (second, s) ← number? (some 2) s
  let (nanos, s) ← fraction? s
  if !(skipBlanks s).isEmpty then none
  else if second = 60 then ofParts? year month day hour minute 59 (nanos + 1000000000)
  else ofParts? year month day hour minute second nanos

end Timestamp

end FlinkSql
