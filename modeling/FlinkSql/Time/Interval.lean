import FlinkSql.Dict
import FlinkSql.Failure

/-!
# Whole-unit intervals

Flink reads an interval as a whole number of one unit. A span becomes an interval in the largest unit that divides it;
milliseconds serve only below one second.
-/

namespace FlinkSql

/-- The unit of an interval. -/
inductive IntervalUnit
  | day
  | hour
  | minute
  | second
  | millisecond
  deriving DecidableEq, Repr

instance : Named IntervalUnit where
  all := [.day, .hour, .minute, .second, .millisecond]
  name
    | .day => "Day"
    | .hour => "Hour"
    | .minute => "Minute"
    | .second => "Second"
    | .millisecond => "Millisecond"

namespace IntervalUnit

/-- The length of the unit in milliseconds. -/
def millis : IntervalUnit → Nat
  | .day => 86400000
  | .hour => 3600000
  | .minute => 60000
  | .second => 1000
  | .millisecond => 1

/-- The SQL word for the unit. -/
def keyword : IntervalUnit → String
  | .day => "DAY"
  | .hour => "HOUR"
  | .minute => "MINUTE"
  | .second => "SECOND"
  | .millisecond => "MILLISECOND"

end IntervalUnit

/-- A whole number of one unit. -/
structure Interval where
  /-- How many units; a 64-bit word. -/
  value : UInt64
  /-- The unit. -/
  unit : IntervalUnit
  deriving DecidableEq

namespace Interval

/-- The units that an interval of a second or more may have, largest first. -/
def wholeUnits : List IntervalUnit := [.day, .hour, .minute, .second]

/-- The largest unit that divides the span; milliseconds if none does and the span is shorter than a second. -/
def unitFor? (d : Span) : Option IntervalUnit :=
  (wholeUnits.find? fun unit => d.millis % unit.millis == 0).or
    (if d.millis < 1000 then some .millisecond else none)

/-- Reduces a span to a whole number of one unit. -/
def ofSpan (d : Span) : Except Failure Interval :=
  if d.nanos % 1000000 ≠ 0 then .error (.interval (.subMillisecond d))
  else if d.millis = 0 then .error (.interval (.notPositive d))
  else match unitFor? d with
    | none => .error (.interval (.notWhole d))
    | some unit =>
      if h : d.millis / unit.millis < UInt64.size then .ok ⟨.ofNatLT (d.millis / unit.millis) h, unit⟩
      else .error (.interval (.tooLarge d))

/-- The interval as a SQL literal. -/
def sql (i : Interval) : String :=
  "INTERVAL '" ++ toString i.value.toNat ++ "' " ++ i.unit.keyword

end Interval

end FlinkSql
