import FlinkSql.Number.Spelling
import FlinkSql.Text.Character

/-!
# Spans of time

Window sizes, slides and watermark delays: whole seconds and nanoseconds. The text of a span, as it stands in error messages,
uses the largest unit of which the span holds at least one.
-/

namespace FlinkSql

/-- A length of time. The seconds fit a 64-bit word. -/
structure Span where
  /-- Whole seconds. -/
  seconds : Nat
  /-- Nanoseconds beyond the whole seconds. -/
  nanos : Nat
  seconds_lt : seconds < UInt64.size := by decide
  nanos_lt : nanos < 1000000000 := by decide
  deriving DecidableEq

namespace Span

/-- The span of the given seconds and nanoseconds; nanoseconds of a second or more are carried. `none` if the seconds overflow
their word. -/
def ofParts? (seconds nanos : Nat) : Option Span :=
  if h : seconds + nanos / 1000000000 < UInt64.size then
    some ⟨seconds + nanos / 1000000000, nanos % 1000000000, h, Nat.mod_lt _ (by decide)⟩
  else none

/-- Whole milliseconds. -/
def millis (d : Span) : Nat := d.seconds * 1000 + d.nanos / 1000000

/-- A number with a fraction of at most `places` digits, zeros at its end dropped. -/
def decimal (whole fraction places : Nat) : String :=
  let shown := Text.dropEndWhile (· == '0') (Number.padded places fraction)
  toString whole ++ if shown.isEmpty then "" else "." ++ String.ofList shown

/-- The span in the largest of seconds, milliseconds, microseconds and nanoseconds of which it holds one. -/
def text (d : Span) : String :=
  if d.seconds ≠ 0 then decimal d.seconds d.nanos 9 ++ "s"
  else if 1000000 ≤ d.nanos then decimal (d.nanos / 1000000) (d.nanos % 1000000) 6 ++ "ms"
  else if 1000 ≤ d.nanos then decimal (d.nanos / 1000) (d.nanos % 1000) 3 ++ "µs"
  else decimal d.nanos 0 0 ++ "ns"

end Span

end FlinkSql
