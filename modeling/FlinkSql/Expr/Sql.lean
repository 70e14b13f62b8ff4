import FlinkSql.Expr.Aliases
import FlinkSql.Expr.Text
import FlinkSql.Function.Registry
import FlinkSql.Name
import FlinkSql.Text.Character

/-!
# Expressions in SQL

Writing an expression as a scalar of Flink SQL. Operators are put between parentheses, so that no precedence matters; columns
go by the aliases of their sources, and calls by the rules of a registry. The first part of an expression that has no SQL makes
the whole fail, in the order in which the parts are written.
-/

namespace FlinkSql

namespace Literal

/-- A decimal number: digits, then possibly a point and digits. Digits of every script count. -/
def isUnsignedDecimal (s : List Char) : Bool :=
  !(s.takeWhile Text.isDecimalDigit).isEmpty &&
    match s.dropWhile Text.isDecimalDigit with
    | [] => true
    | c :: rest => c == '.' && !rest.isEmpty && rest.all Text.isDecimalDigit

/-- A decimal number with a minus sign if it is negative. -/
def isDecimal (text : String) : Bool :=
  match text.toList with
  | [] => false
  | c :: rest => if c = '-' then isUnsignedDecimal rest else isUnsignedDecimal (c :: rest)

/-- A literal in SQL. -/
def sql : Literal → Except Failure String
  | .null => .ok "NULL"
  | .boolean true => .ok "TRUE"
  | .boolean false => .ok "FALSE"
  | .integer n => .ok (toString n.toInt)
  | .float x =>
    if Number.isFinite x then .ok (numberText x) else .error (.expression (.nonFinite (numberText x)))
  | .decimal d => if isDecimal d then .ok d else .error (.expression (.malformedDecimal d))
  | .string s => .ok (Text.quotedString s)
  | .timestamp t => .ok ("TIMESTAMP '" ++ t.sqlText ++ "'")

end Literal

namespace Expr

/-- How the members of a computed value are read. -/
inductive MemberForm
  /-- The length of a text. -/
  | length
  /-- A part of a date or a time. -/
  | part (name : String)
  deriving DecidableEq

/-- The members that have SQL. -/
def memberForm? : String → Option MemberForm
  | "Length" => some .length
  | "Year" => some (.part "YEAR")
  | "Month" => some (.part "MONTH")
  | "Day" => some (.part "DAY")
  | "Hour" => some (.part "HOUR")
  | "Minute" => some (.part "MINUTE")
  | "Second" => some (.part "SECOND")
  | _ => none

/-- A member of the value with the given SQL. -/
def memberSql (form : MemberForm) (target : String) : String :=
  match form with
  | .length => "CHAR_LENGTH(" ++ target ++ ")"
  | .part name => "EXTRACT(" ++ name ++ " FROM " ++ target ++ ")"

/-- Whether the expression is the NULL literal. -/
def isNull : Expr → Bool
  | .literal .null => true
  | _ => false

/-- The test that a comparison for equality with NULL stands for. -/
def nullTest? : BinaryOp → Option String
  | .eq => some "IS NULL"
  | .ne => some "IS NOT NULL"
  | _ => none

/-- How a comparison is written: as a test of one side if the other one alone is the NULL literal, else with both sides. -/
inductive ComparisonForm
  | testLeft (test : String)
  | testRight (test : String)
  | both
  deriving DecidableEq

/-- The form of a binary operation. -/
def comparisonForm (op : BinaryOp) (left right : Expr) : ComparisonForm :=
  match nullTest? op, left.isNull, right.isNull with
  | some test, false, true => .testLeft test
  | some test, true, false => .testRight test
  | _, _, _ => .both

end Expr

mutual

/-- An expression in SQL. -/
def Expr.sql (functions : Registry) (aliases : Aliases) : Expr → Except Failure String
  | .literal v => v.sql
  | .column p name => do
    let source ← aliases.resolve p
    return source ++ "." ++ Name.quotedColumn name
  | .row p => .error (.expression (.rowAsScalar p.name))
  | .member target name =>
    match Expr.memberForm? name with
    | none => .error (.expression (.memberAccess target.text name))
    | some form => do
      let text ← target.sql functions aliases
      return Expr.memberSql form text
  | .unary op operand => do
    let text ← operand.sql functions aliases
    return match op with
      | .not => "(NOT " ++ text ++ ")"
      | .negate => "(-" ++ text ++ ")"
  | .binary op left right =>
    match Expr.comparisonForm op left right with
    | .testLeft test => do
      let text ← left.sql functions aliases
      return "(" ++ text ++ " " ++ test ++ ")"
    | .testRight test => do
      let text ← right.sql functions aliases
      return "(" ++ text ++ " " ++ test ++ ")"
    | .both => do
      let l ← left.sql functions aliases
      let r ← right.sql functions aliases
      return "(" ++ l ++ " " ++ op.sql ++ " " ++ r ++ ")"
  | .conditional test yes no => do
    let test ← test.sql functions aliases
    let yes ← yes.sql functions aliases
    let no ← no.sql functions aliases
    return "CASE WHEN " ++ test ++ " THEN " ++ yes ++ " ELSE " ++ no ++ " END"
  | .coalesce left right => do
    let l ← left.sql functions aliases
    let r ← right.sql functions aliases
    return "COALESCE(" ++ l ++ ", " ++ r ++ ")"
  | .call f none args => do
    let rendered ← argsSql functions aliases args
    functions.write ⟨⟨f, none, args⟩, rendered⟩
  | .call f (some receiver) args => do
    let first ← receiver.sql functions aliases
    let rendered ← argsSql functions aliases args
    functions.write ⟨⟨f, some receiver, args⟩, first :: rendered⟩
  | .record _ => .error (.expression .recordAsScalar)

/-- The arguments in SQL. -/
def argsSql (functions : Registry) (aliases : Aliases) : List Expr → Except Failure (List String)
  | [] => .ok []
  | e :: rest => do
    let text ← e.sql functions aliases
    let texts ← argsSql functions aliases rest
    return text :: texts

end

end FlinkSql
