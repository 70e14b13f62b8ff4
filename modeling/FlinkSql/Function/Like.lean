import FlinkSql.Function.Rule

/-!
# Patterns

Whether a text contains, starts with or ends with another is asked with LIKE. A literal pattern is escaped, so that it stands
for itself; a computed one is put between wildcards when the query runs.
-/

namespace FlinkSql.Like

/-- The escape character of literal patterns. -/
def escape : Char := '^'

/-- A character of a literal pattern: wildcards and the escape character are escaped, a quote is doubled. -/
def escapedChar (c : Char) : List Char :=
  if c = '%' ∨ c = '_' ∨ c = escape then [escape, c]
  else if c = Text.singleQuote then [Text.singleQuote, Text.singleQuote]
  else [c]

/-- A literal pattern, escaped for use between single quotes. -/
def escaped (pattern : List Char) : List Char := pattern.flatMap escapedChar

/-- The wildcard for any text, if it is wanted. -/
def wildcard (wanted : Bool) : String := if wanted then "%" else ""

/-- Writes a test of the receiver against the first argument, with any text allowed before or after it. -/
def write (before after : Bool) (a : Arguments) : Except Failure String := do
  let receiver ← a.sql 0
  match a.stringLiteral? 1 with
  | some pattern =>
    return "(" ++ receiver ++ " LIKE '" ++ wildcard before ++ String.ofList (escaped pattern.toList) ++
      wildcard after ++ "' ESCAPE '" ++ String.singleton escape ++ "')"
  | none =>
    let pattern ← a.sql 1
    let parts := (if before then ["'%'"] else []) ++ [pattern] ++ (if after then ["'%'"] else [])
    return "(" ++ receiver ++ " LIKE CONCAT(" ++ ", ".intercalate parts ++ "))"

end FlinkSql.Like
