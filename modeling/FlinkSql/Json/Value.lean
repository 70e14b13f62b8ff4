import FlinkSql.Number.Layout

/-!
# JSON values and their texts

A JSON text as a tree. Objects keep their members in the order of the text, repeated names included: what a repeated name means
is for the reader of the object to decide. A tree is written in two forms: compact, without any blanks, and indented by two
spaces a level. In both a text is escaped only where JSON demands it.
-/

namespace FlinkSql

/-- A JSON value. -/
inductive Json
  | null
  | bool (value : Bool)
  /-- A whole number that fits a signed or an unsigned 64-bit word. -/
  | int (value : Int)
  /-- Any other number. -/
  | float (value : Float)
  | str (text : String)
  | arr (items : List Json)
  | obj (members : List (String × Json))
  /-- What is well written but stands for no value: a text with half of a surrogate pair, or a number beyond all doubles. It
  may stand where nobody looks. -/
  | unreadable

instance : Inhabited Json := ⟨.null⟩

namespace Json

/-! ## Writing -/

/-- Numbers are written without an exponent from a hundred-thousandth up to ten quadrillions, and a whole number keeps a zero
behind its point. What is no number is null. A tie goes to the even digit. -/
def numberLayout : Number.Layout where
  positional e := -5 ≤ e && e ≤ 15
  afterWhole := ".0"
  tie := .even
  nan := "null"
  infinity := "null"
  signedInfinity := false

/-- The escape of a control character by its number. -/
def numberedEscape (n : Nat) : List Char :=
  let ds := Nat.toDigits 16 n
  '\\' :: 'u' :: List.replicate (4 - ds.length) '0' ++ ds

/-- A character of a text, with its escape if it needs one. -/
def escapedChar (c : Char) : List Char :=
  if c = '"' ∨ c = '\\' then ['\\', c]
  else if c = '\x08' then ['\\', 'b']
  else if c = '\x0c' then ['\\', 'f']
  else if c = '\n' then ['\\', 'n']
  else if c = '\r' then ['\\', 'r']
  else if c = '\t' then ['\\', 't']
  else if c.toNat < 0x20 then numberedEscape c.toNat
  else [c]

/-- A text between double quotes. -/
def quoted (s : String) : String :=
  String.ofList ('"' :: s.toList.flatMap escapedChar ++ ['"'])

/-- A value that has no parts. -/
def scalarText : Json → String
  | .bool true => "true"
  | .bool false => "false"
  | .int n => toString n
  | .float x => numberLayout.write x
  | .str s => quoted s
  | _ => "null"

mutual

/-- The value without any blanks. -/
def compact : Json → String
  | .arr items => "[" ++ ",".intercalate (compactItems items) ++ "]"
  | .obj members => "\x7b" ++ ",".intercalate (compactMembers members) ++ "\x7d"
  | v => scalarText v

/-- The items of an array. -/
def compactItems : List Json → List String
  | [] => []
  | v :: rest => compact v :: compactItems rest

/-- The members of an object. -/
def compactMembers : List (String × Json) → List String
  | [] => []
  | (name, v) :: rest => (quoted name ++ ":" ++ compact v) :: compactMembers rest

end

/-- A line break and the indentation of a level. -/
def lineBreak (level : Nat) : String := String.ofList ('\n' :: List.replicate (2 * level) ' ')

/-- Parts between brackets, one a line; nothing between them if there are none. -/
def block (level : Nat) (opening closing : String) (parts : List String) : String :=
  if parts.isEmpty then opening ++ closing
  else opening ++ lineBreak (level + 1) ++ ("," ++ lineBreak (level + 1)).intercalate parts ++ lineBreak level ++ closing

mutual

/-- The value at a level of indentation. -/
def indentedAt (level : Nat) : Json → String
  | .arr items => block level "[" "]" (indentedItems (level + 1) items)
  | .obj members => block level "\x7b" "\x7d" (indentedMembers (level + 1) members)
  | v => scalarText v

/-- The items of an array. -/
def indentedItems (level : Nat) : List Json → List String
  | [] => []
  | v :: rest => indentedAt level v :: indentedItems level rest

/-- The members of an object. -/
def indentedMembers (level : Nat) : List (String × Json) → List String
  | [] => []
  | (name, v) :: rest => (quoted name ++ ": " ++ indentedAt level v) :: indentedMembers level rest

end

/-- The value with two spaces of indentation a level. -/
def indented (v : Json) : String := indentedAt 0 v

end Json

end FlinkSql
