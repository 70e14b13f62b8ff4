import FlinkSql.Dict
import FlinkSql.Time.Timestamp

/-!
# Scalar expressions

The closed set of expressions that a query is made of. A row parameter stands for a row of one source, or for the projected
output row; columns are read from parameters.
-/

namespace FlinkSql

/-- A row parameter. -/
structure Param where
  /-- The name as the caller wrote it. -/
  name : String
  /-- The row type it ranges over; none for the projected output row. -/
  row : Option String
  deriving DecidableEq

/-- Whether the parameter ranges over the projected output row. -/
def Param.isOutput (p : Param) : Bool := p.row.isNone

/-- Where a function comes from. -/
inductive Origin
  /-- Operations on strings. -/
  | string
  /-- Mathematical functions. -/
  | math
  /-- The function library of Flink. -/
  | flink
  /-- Markers for the bounds of a window. -/
  | window
  /-- Aggregates. -/
  | aggregate
  deriving DecidableEq, Repr

instance : Named Origin where
  all := [.string, .math, .flink, .window, .aggregate]
  name
    | .string => "String"
    | .math => "Math"
    | .flink => "Flink"
    | .window => "Window"
    | .aggregate => "Aggregate"

/-- The origin as it stands in a qualified name. -/
def Origin.text : Origin → String
  | .string => "string"
  | .math => "math"
  | .flink => "flink"
  | .window => "window"
  | .aggregate => "aggregate"

/-- The name of a function within its origin. -/
structure FunctionName where
  origin : Origin
  name : String
  deriving DecidableEq

/-- A binary operator. -/
inductive BinaryOp
  | add
  | subtract
  | multiply
  | divide
  | modulo
  | eq
  | ne
  | lt
  | le
  | gt
  | ge
  | and
  | or
  deriving DecidableEq, Repr

instance : Named BinaryOp where
  all := [.add, .subtract, .multiply, .divide, .modulo, .eq, .ne, .lt, .le, .gt, .ge, .and, .or]
  name
    | .add => "Add"
    | .subtract => "Subtract"
    | .multiply => "Multiply"
    | .divide => "Divide"
    | .modulo => "Modulo"
    | .eq => "Eq"
    | .ne => "Ne"
    | .lt => "Lt"
    | .le => "Le"
    | .gt => "Gt"
    | .ge => "Ge"
    | .and => "And"
    | .or => "Or"

/-- The SQL spelling of the operator. -/
def BinaryOp.sql : BinaryOp → String
  | .add => "+"
  | .subtract => "-"
  | .multiply => "*"
  | .divide => "/"
  | .modulo => "%"
  | .eq => "="
  | .ne => "<>"
  | .lt => "<"
  | .le => "<="
  | .gt => ">"
  | .ge => ">="
  | .and => "AND"
  | .or => "OR"

/-- A unary operator. -/
inductive UnaryOp
  | not
  | negate
  deriving DecidableEq, Repr

instance : Named UnaryOp where
  all := [.not, .negate]
  name
    | .not => "Not"
    | .negate => "Negate"

/-- A literal value. -/
inductive Literal
  | null
  | boolean (value : Bool)
  | integer (value : Int64)
  | float (value : Float)
  /-- An exact decimal, kept as its text. -/
  | decimal (text : String)
  | string (text : String)
  | timestamp (value : Timestamp)

/-- A scalar expression. -/
inductive Expr
  | literal (value : Literal)
  /-- A column of a row parameter. -/
  | column (param : Param) (name : String)
  /-- A row parameter itself. -/
  | row (param : Param)
  /-- A member of a computed value, such as a length or a year. -/
  | member (target : Expr) (name : String)
  | unary (op : UnaryOp) (operand : Expr)
  | binary (op : BinaryOp) (left right : Expr)
  /-- The second operand where the first holds, else the third. -/
  | conditional (test yes no : Expr)
  /-- The first operand, or the second where the first is null. -/
  | coalesce (left right : Expr)
  /-- A call of a function, with a receiver if it is written as a method. -/
  | call (function : FunctionName) (receiver : Option Expr) (args : List Expr)
  /-- A record with named members in order. -/
  | record (members : List (String × Expr))

instance : Inhabited Expr := ⟨.literal .null⟩

/-- A function call on its own. -/
structure Call where
  function : FunctionName
  receiver : Option Expr
  args : List Expr

/-- Origin, name and number of explicit arguments: what decides how a call is written. -/
def Call.qualifiedName (c : Call) : String :=
  c.function.origin.text ++ "::" ++ c.function.name ++ "/" ++ toString c.args.length

end FlinkSql
