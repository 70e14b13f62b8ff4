import FlinkSql.Text.Invisible

/-!
# Quoted texts

In a statement a text stands between two quotes, and a quote in it is written twice: string literals, property keys and values
between single quotes, names between backticks. `doubled` is the one place where caller text is escaped. Diagnostics show a text
between double quotes, with what cannot be seen written by its code point.
-/

namespace FlinkSql.Text

/-! ## In statements -/

/-- The quote of string literals. -/
def singleQuote : Char := '\''

/-- The quote of names. -/
def backtick : Char := '\x60'

/-- The text with every `q` written twice. -/
def doubled (q : Char) (s : List Char) : List Char :=
  s.flatMap fun c => if c = q then [q, q] else [c]

/-- The text between two quotes `q`, its own quotes doubled. -/
def quoted (q : Char) (s : String) : String :=
  String.ofList (q :: doubled q s.toList ++ [q])

/-- A string literal. -/
def quotedString (s : String) : String := quoted singleQuote s

/-- A quoted name. -/
def quotedName (s : String) : String := quoted backtick s

/-! ## In diagnostics -/

/-- One character with its escape if it needs one. -/
def escapedChar (c : Char) : List Char :=
  if c = '"' ∨ c = '\\' then ['\\', c]
  else if c = '\n' then ['\\', 'n']
  else if c = '\r' then ['\\', 'r']
  else if c = '\t' then ['\\', 't']
  else if c = '\x00' then ['\\', '0']
  else if isInvisible c then ['\\', 'u', '\x7b'] ++ Nat.toDigits 16 c.toNat ++ ['\x7d']
  else [c]

/-- The text between double quotes. -/
def escaped (s : String) : String :=
  String.ofList ('"' :: s.toList.flatMap escapedChar ++ ['"'])

end FlinkSql.Text
