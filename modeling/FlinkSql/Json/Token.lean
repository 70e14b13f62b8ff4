import FlinkSql.Json.Numeral

/-!
# Tokens of JSON texts

A JSON text is cut into tokens by a machine that takes one character at a time. Between tokens only four blanks may stand.
-/

namespace FlinkSql.Json

/-- A token. -/
inductive Token
  | beginObject
  | endObject
  | beginArray
  | endArray
  | colon
  | comma
  /-- A text; none if it holds half of a surrogate pair. -/
  | text (content : Option String)
  /-- Any other value without parts. -/
  | scalar (value : Json)

namespace Token

/-- A unit of a text: a character, or the number of an escape. -/
inductive Unit
  | char (c : Char)
  | code (n : Nat)

/-- The first half of a surrogate pair. -/
def isHigh (n : Nat) : Bool := 0xD800 ≤ n && n ≤ 0xDBFF

/-- The second half of a surrogate pair. -/
def isLow (n : Nat) : Bool := 0xDC00 ≤ n && n ≤ 0xDFFF

/-- The characters of a text; `none` if half of a surrogate pair stands alone. -/
def characters? : List Unit → Option (List Char)
  | [] => some []
  | .char c :: rest => (characters? rest).map (c :: ·)
  | .code n :: rest =>
    if isHigh n then
      match rest with
      | .code m :: rest =>
        if isLow m then
          (characters? rest).map (Char.ofNat (0x10000 + (n - 0xD800) * 0x400 + (m - 0xDC00)) :: ·)
        else none
      | _ => none
    else if isLow n then none
    else (characters? rest).map (Char.ofNat n :: ·)

/-- The token of a text whose units are given last first. -/
def ofUnits (units : List Unit) : Token := .text ((characters? units.reverse).map String.ofList)

/-- Where the machine stands. What it has read of a token is kept last first. -/
inductive Mode
  | between
  /-- Inside a text. -/
  | inText (units : List Unit)
  /-- Behind a backslash. -/
  | escape (units : List Unit)
  /-- Inside the four digits of a numbered escape. -/
  | code (units : List Unit) (digits value : Nat)
  /-- Inside one of the words for null and the truth values. -/
  | word (letters : List Char)
  /-- Inside a number. -/
  | number (spelt : List Char)

/-- The value of a hexadecimal digit. -/
def hexValue? (c : Char) : Option Nat :=
  if c.isDigit then some (c.toNat - '0'.toNat)
  else if 'a' ≤ c ∧ c ≤ 'f' then some (c.toNat - 'a'.toNat + 10)
  else if 'A' ≤ c ∧ c ≤ 'F' then some (c.toNat - 'A'.toNat + 10)
  else none

/-- The character that an escape letter stands for. -/
def escapeValue? (c : Char) : Option Char :=
  if c = '"' ∨ c = '\\' ∨ c = '/' then some c
  else if c = 'b' then some '\x08'
  else if c = 'f' then some '\x0c'
  else if c = 'n' then some '\n'
  else if c = 'r' then some '\r'
  else if c = 't' then some '\t'
  else none

/-- The value that a word stands for. -/
def wordValue? (letters : List Char) : Option Json :=
  match String.ofList letters.reverse with
  | "null" => some .null
  | "true" => some (.bool true)
  | "false" => some (.bool false)
  | _ => none

/-- Whether a character may stand in a number. -/
def isNumeric (c : Char) : Bool := c.isDigit || c == '-' || c == '+' || c == '.' || c == 'e' || c == 'E'

/-- The step on a character between tokens. -/
def stepBetween (c : Char) : Option (List Token × Mode) :=
  if c = ' ' ∨ c = '\t' ∨ c = '\n' ∨ c = '\r' then some ([], .between)
  else if c = '\x7b' then some ([.beginObject], .between)
  else if c = '\x7d' then some ([.endObject], .between)
  else if c = '[' then some ([.beginArray], .between)
  else if c = ']' then some ([.endArray], .between)
  else if c = ':' then some ([.colon], .between)
  else if c = ',' then some ([.comma], .between)
  else if c = '"' then some ([], .inText [])
  else if c.isDigit ∨ c = '-' then some ([], .number [c])
  else if c.isLower then some ([], .word [c])
  else none

/-- The step behind a finished token. -/
def stepAfter (token : Token) (c : Char) : Option (List Token × Mode) :=
  (stepBetween c).map fun (tokens, mode) => (token :: tokens, mode)

/-- One step: the tokens that the character completes, and where the machine stands then. -/
def step : Mode → Char → Option (List Token × Mode)
  | .between, c => stepBetween c
  | .inText units, c =>
    if c = '"' then some ([ofUnits units], .between)
    else if c = '\\' then some ([], .escape units)
    else if c.toNat < 0x20 then none
    else some ([], .inText (.char c :: units))
  | .escape units, c =>
    if c = 'u' then some ([], .code units 0 0)
    else (escapeValue? c).map fun d => ([], .inText (.char d :: units))
  | .code units digits value, c =>
    (hexValue? c).map fun h =>
      if digits = 3 then ([], .inText (.code (16 * value + h) :: units))
      else ([], .code units (digits + 1) (16 * value + h))
  | .word letters, c =>
    if c.isLower then some ([], .word (c :: letters))
    else (wordValue? letters).bind fun v => stepAfter (.scalar v) c
  | .number spelt, c =>
    if isNumeric c then some ([], .number (c :: spelt))
    else (Numeral.read? spelt.reverse).bind fun v => stepAfter (.scalar v) c

/-- The token that ends with the text, if one is begun. -/
def finish : Mode → Option (List Token)
  | .between => some []
  | .word letters => (wordValue? letters).map fun v => [.scalar v]
  | .number spelt => (Numeral.read? spelt.reverse).map fun v => [.scalar v]
  | _ => none

/-- Cuts a text into tokens. -/
def cut : Mode → List Char → Option (List Token)
  | mode, [] => finish mode
  | mode, c :: rest => do
    let (tokens, mode) ← step mode c
    let others ← cut mode rest
    return tokens ++ others

end Token

end FlinkSql.Json
