import FlinkSql.Expr.Sql
import FlinkSql.Proofs.Text.Reading

/-!
# Scalars of SQL and their reading

A `Scalar` is the tree that an expression without calls shows in SQL: words (columns, and literals without quotes), quoted texts,
and the forms that put fixed words and parentheses around their parts. `chars` writes the tree, and `read` reads one from a text.

Where a text begins decides its form, up to one place: behind `(-` stands either what is negated, or the digits of a negative
number that is the left operand. What follows the number tells them apart.
-/

namespace FlinkSql

open Text

/-- What an expression shows in SQL. -/
inductive Scalar
  /-- A column, or a literal without quotes. -/
  | word (text : List Char)
  /-- A string, without its quotes. -/
  | string (text : List Char)
  /-- A point in time, without its quotes. -/
  | timestamp (text : List Char)
  | member (form : Expr.MemberForm) (target : Scalar)
  | unary (op : UnaryOp) (operand : Scalar)
  /-- A test of one operand. -/
  | test (name : String) (operand : Scalar)
  | binary (op : BinaryOp) (left right : Scalar)
  | conditional (condition yes no : Scalar)
  | coalesce (left right : Scalar)

/-- The words with which forms begin. -/
inductive Keyword
  | timestamp
  | charLength
  | extract
  | case
  | coalesce
  | not

instance : Named Keyword where
  all := [.timestamp, .charLength, .extract, .case, .coalesce, .not]
  name
    | .timestamp => "TIMESTAMP"
    | .charLength => "CHAR_LENGTH"
    | .extract => "EXTRACT"
    | .case => "CASE"
    | .coalesce => "COALESCE"
    | .not => "NOT"

/-- The keyword as it is written. -/
def Keyword.chars (k : Keyword) : List Char := (Named.name k).toList

/-- The keyword that is written so. -/
def keyword? (word : List Char) : Option Keyword := (Named.all : List Keyword).find? fun k => k.chars == word

/-- The operator that is written so. -/
def operator? (word : List Char) : Option BinaryOp := (Named.all : List BinaryOp).find? fun op => op.sql.toList == word

namespace Scalar

/-- The scalar as it is written. -/
@[simp]
def chars : Scalar → List Char
  | .word text => text
  | .string text => singleQuote :: (doubled singleQuote text ++ [singleQuote])
  | .timestamp text => Keyword.timestamp.chars ++ (" '".toList ++ (text ++ [singleQuote]))
  | .member .length target => Keyword.charLength.chars ++ ("(".toList ++ (target.chars ++ ")".toList))
  | .member (.part name) target =>
    Keyword.extract.chars ++ ("(".toList ++ (name.toList ++ (" FROM ".toList ++ (target.chars ++ ")".toList))))
  | .unary .not operand => '(' :: (Keyword.not.chars ++ (" ".toList ++ (operand.chars ++ ")".toList)))
  | .unary .negate operand => '(' :: '-' :: (operand.chars ++ ")".toList)
  | .test name operand => '(' :: (operand.chars ++ (" ".toList ++ (name.toList ++ ")".toList)))
  | .binary op left right =>
    '(' :: (left.chars ++ (" ".toList ++ (op.sql.toList ++ (" ".toList ++ (right.chars ++ ")".toList)))))
  | .conditional condition yes no =>
    Keyword.case.chars ++ (" WHEN ".toList ++
      (condition.chars ++ (" THEN ".toList ++ (yes.chars ++ (" ELSE ".toList ++ (no.chars ++ " END".toList))))))
  | .coalesce left right =>
    Keyword.coalesce.chars ++ ("(".toList ++ (left.chars ++ (", ".toList ++ (right.chars ++ ")".toList))))

/-! ## Well-formed scalars -/

/-- The characters that end a word. -/
def separators : List Char := [' ', ',', '(', ')', singleQuote]

/-- Whether the character can stand in a word. -/
def isBare (c : Char) : Bool := !separators.contains c

/-- A text that is read as one word. -/
structure IsBare (text : List Char) : Prop where
  nonempty : text ≠ []
  bare : ∀ c ∈ text, isBare c = true
  free : keyword? text = none

/-- A text that is read as one word, also where its minus sign is read apart. -/
structure IsWord (text : List Char) : Prop extends IsBare text where
  unsigned : ∀ rest, text = '-' :: rest → IsBare rest

/-- The tests that are known. -/
def tests : List String := ["IS NULL", "IS NOT NULL"]

/-- A scalar that can be read back. -/
inductive WellFormed : Scalar → Prop
  | word {text : List Char} (h : IsWord text) : WellFormed (.word text)
  | string (text : List Char) : WellFormed (.string text)
  | timestamp {text : List Char} (h : singleQuote ∉ text) : WellFormed (.timestamp text)
  | length {target : Scalar} (ht : WellFormed target) : WellFormed (.member .length target)
  | part {name : String} {target : Scalar} (h : ∀ c ∈ name.toList, isBare c = true) (ht : WellFormed target) :
      WellFormed (.member (.part name) target)
  | not {operand : Scalar} (ho : WellFormed operand) : WellFormed (.unary .not operand)
  | negate {operand : Scalar} (ho : WellFormed operand) : WellFormed (.unary .negate operand)
  | test {name : String} {operand : Scalar} (h : name ∈ tests) (ho : WellFormed operand) : WellFormed (.test name operand)
  | binary (op : BinaryOp) {left right : Scalar} (hl : WellFormed left) (hr : WellFormed right) :
      WellFormed (.binary op left right)
  | conditional {condition yes no : Scalar} (hc : WellFormed condition) (hy : WellFormed yes) (hn : WellFormed no) :
      WellFormed (.conditional condition yes no)
  | coalesce {left right : Scalar} (hl : WellFormed left) (hr : WellFormed right) : WellFormed (.coalesce left right)

/-! ## Reading -/

/-- Reads a scalar at the start of a text, and returns what follows it. -/
abbrev Reading := List Char → Option (Scalar × List Char)

/-- Reads a scalar and the fixed text behind it. -/
def readUpTo (read : Reading) (close : String) (s : List Char) : Option (Scalar × List Char) := do
  let (x, s) ← read s
  let rest ← after? close s
  return (x, rest)

/-- Reads what stands behind the left operand: an operator and the right operand, or a test. -/
def readRight (read : Reading) (left : Scalar) (s : List Char) : Option (Scalar × List Char) := do
  let s ← after? " " s
  match operator? (s.takeWhile isBare) with
  | some op => do
    let s ← after? " " (s.dropWhile isBare)
    let (right, rest) ← readUpTo read ")" s
    return (.binary op left right, rest)
  | none => do
    let rest ← after? ")" (s.dropWhile (· != ')'))
    let name := String.ofList (s.takeWhile (· != ')'))
    if name ∈ tests then return (.test name left, rest) else none

/-- Reads what stands behind a minus sign that follows a parenthesis. -/
def readMinus (read : Reading) (s : List Char) : Option (Scalar × List Char) := do
  let (operand, s) ← read s
  match after? ")" s, operand with
  | some rest, operand => return (.unary .negate operand, rest)
  | none, .word text => readRight read (.word ('-' :: text)) s
  | none, _ => none

/-- Reads what stands behind a parenthesis. -/
def readGroup (read : Reading) (s : List Char) : Option (Scalar × List Char) :=
  match keyword? (s.takeWhile isBare) with
  | some .not => do
    let s ← after? " " (s.dropWhile isBare)
    let (operand, rest) ← readUpTo read ")" s
    return (.unary .not operand, rest)
  | _ =>
    if s.head? = some '-' then readMinus read s.tail
    else do
      let (left, s) ← read s
      readRight read left s

/-- Reads what begins with a mark. -/
def readMarked (read : Reading) : Reading
  | [] => none
  | mark :: s =>
    if mark = singleQuote then (unquoted? singleQuote s).map fun (text, rest) => (.string text, rest)
    else if mark = '(' then readGroup read s
    else none

/-- Reads what stands behind a keyword. -/
@[simp]
def readKeyword (read : Reading) : Keyword → List Char → Option (Scalar × List Char)
  | .timestamp, s => do
    let s ← after? " '" s
    let (text, rest) ← unquoted? singleQuote s
    return (.timestamp text, rest)
  | .charLength, s => do
    let s ← after? "(" s
    let (target, rest) ← readUpTo read ")" s
    return (.member .length target, rest)
  | .extract, s => do
    let s ← after? "(" s
    let name := String.ofList (s.takeWhile isBare)
    let s ← after? " FROM " (s.dropWhile isBare)
    let (target, rest) ← readUpTo read ")" s
    return (.member (.part name) target, rest)
  | .case, s => do
    let s ← after? " WHEN " s
    let (condition, s) ← readUpTo read " THEN " s
    let (yes, s) ← readUpTo read " ELSE " s
    let (no, rest) ← readUpTo read " END" s
    return (.conditional condition yes no, rest)
  | .coalesce, s => do
    let s ← after? "(" s
    let (left, s) ← readUpTo read ", " s
    let (right, rest) ← readUpTo read ")" s
    return (.coalesce left right, rest)
  | .not, _ => none

/-- Reads a scalar whose parts are read by `read`. -/
def readForm (read : Reading) (s : List Char) : Option (Scalar × List Char) :=
  let lead := s.takeWhile isBare
  if lead = [] then readMarked read s
  else match keyword? lead with
    | some k => readKeyword read k (s.dropWhile isBare)
    | none => some (.word lead, s.dropWhile isBare)

/-- Reads a scalar in which fewer than `depth` forms lie one inside the other. -/
def read : Nat → Reading
  | 0 => fun _ => none
  | depth + 1 => readForm (read depth)

/-- The scalar that a text is. -/
def ofChars? (s : List Char) : Option Scalar :=
  match read (s.length + 1) s with
  | some (x, []) => some x
  | _ => none

end Scalar

end FlinkSql
