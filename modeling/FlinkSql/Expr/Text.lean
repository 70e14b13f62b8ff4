import FlinkSql.Expr.Basic
import FlinkSql.Number.Layout

/-!
# Expressions as text

The text of an expression for people: `(o.Amount >= 100)`, `x.Name.trim()`, or a record with its members. It is no SQL, and is
not meant to be read back.
-/

namespace FlinkSql

/-- Numbers are written without an exponent and without a fraction if they are whole; a tie goes up. -/
def Literal.numberLayout : Number.Layout where
  positional _ := true
  afterWhole := ""
  tie := .up
  nan := "NaN"
  infinity := "inf"
  signedInfinity := true

/-- The text of a number, in SQL too. -/
def Literal.numberText (x : Float) : String := Literal.numberLayout.write x

/-- The text of a literal. -/
def Literal.text : Literal → String
  | .null => "null"
  | .boolean true => "true"
  | .boolean false => "false"
  | .integer n => toString n.toInt
  | .float x => Literal.numberText x
  | .decimal d => d ++ "m"
  | .string s => "\"" ++ s ++ "\""
  | .timestamp t => t.text

mutual

/-- The text of an expression. -/
def Expr.text : Expr → String
  | .literal v => v.text
  | .column p name => p.name ++ "." ++ name
  | .row p => p.name
  | .member target name => target.text ++ "." ++ name
  | .unary .not operand => "!" ++ operand.text
  | .unary .negate operand => "-" ++ operand.text
  | .binary op left right => "(" ++ left.text ++ " " ++ op.sql ++ " " ++ right.text ++ ")"
  | .conditional test yes no => "(" ++ test.text ++ " ? " ++ yes.text ++ " : " ++ no.text ++ ")"
  | .coalesce left right => "(" ++ left.text ++ " ?? " ++ right.text ++ ")"
  | .call f none args => f.origin.text ++ "::" ++ f.name ++ "(" ++ ", ".intercalate (argTexts args) ++ ")"
  | .call f (some receiver) args =>
    receiver.text ++ "." ++ f.name ++ "(" ++ ", ".intercalate (argTexts args) ++ ")"
  | .record members => "new \x7b " ++ ", ".intercalate (memberTexts members) ++ " \x7d"

/-- The texts of arguments. -/
def argTexts : List Expr → List String
  | [] => []
  | e :: rest => e.text :: argTexts rest

/-- The texts of record members. -/
def memberTexts : List (String × Expr) → List String
  | [] => []
  | (name, e) :: rest => (name ++ " = " ++ e.text) :: memberTexts rest

end

end FlinkSql
