import FlinkSql.Function.Rule
import FlinkSql.Number.Spelling

/-!
# Templates

A template is a text in which a number between braces stands for the argument at that position. Arguments are inserted as they
are: a brace in an argument opens no placeholder. The text is cut into pieces first and then filled from left to right, so of
two faults the left one is reported.
-/

namespace FlinkSql.Template

/-- A piece of a template. -/
inductive Piece
  /-- A character that stands for itself. -/
  | char (c : Char)
  /-- A placeholder with the digits of its number. -/
  | slot (digits : List Char)
  /-- A brace that opens no placeholder. What follows it does not matter. -/
  | broken
  deriving DecidableEq

/-- Cuts a text into pieces. Inside a placeholder the first argument holds the digits read so far, the last one first. -/
def cut : Option (List Char) → List Char → List Piece
  | none, [] => []
  | none, c :: rest => if c = '\x7b' then cut (some []) rest else .char c :: cut none rest
  | some _, [] => [.broken]
  | some digits, c :: rest =>
    if c.isDigit then cut (some (c :: digits)) rest
    else if c = '\x7d' ∧ digits ≠ [] then .slot digits.reverse :: cut none rest
    else [.broken]

/-- The pieces of a template. -/
def pieces (template : String) : List Piece := cut none template.toList

/-- The argument for a placeholder. Its number has to fit a 64-bit word. -/
def argument (template : String) (a : Arguments) (digits : List Char) : Except Failure String :=
  if UInt64.size ≤ Number.ofDigits digits then .error (.expression (.hugePlaceholder template))
  else a.sql (Number.ofDigits digits)

/-- Fills pieces from left to right. -/
def fillPieces (template : String) (a : Arguments) : List Piece → Except Failure (List Char)
  | [] => .ok []
  | .char c :: rest => do
    let tail ← fillPieces template a rest
    return c :: tail
  | .slot digits :: rest => do
    let text ← argument template a digits
    let tail ← fillPieces template a rest
    return text.toList ++ tail
  | .broken :: _ => .error (.expression (.malformedTemplate a.call.qualifiedName))

/-- Fills a template with the arguments of a call. -/
def fill (template : String) (a : Arguments) : Except Failure String := do
  let text ← fillPieces template a (pieces template)
  return String.ofList text

end FlinkSql.Template
