import FlinkSql.Expr.Basic
import FlinkSql.Failure
import FlinkSql.Text.Quoted

/-!
# Rules for writing calls

How a function is written in SQL: under another name, by a template, by a rule of its own, or not at all. A rule sees the call
and the SQL of its receiver and arguments.
-/

namespace FlinkSql

/-- A call together with the SQL of its receiver, if it has one, and of its arguments, in this order. -/
structure Arguments where
  call : Call
  /-- The SQL of the receiver and the arguments. -/
  rendered : List String

namespace Arguments

/-- The expression at a position: the receiver comes first, if there is one. -/
def raw (a : Arguments) (index : Nat) : Option Expr :=
  match a.call.receiver, index with
  | some receiver, 0 => some receiver
  | some _, i + 1 => a.call.args[i]?
  | none, i => a.call.args[i]?

/-- The SQL at a position. -/
def sql (a : Arguments) (index : Nat) : Except Failure String :=
  match a.rendered[index]? with
  | some text => .ok text
  | none => .error (.expression (.missingArgument a.call.qualifiedName index))

/-- The text at a position, if a string literal stands there. -/
def stringLiteral? (a : Arguments) (index : Nat) : Option String :=
  match a.raw index with
  | some (.literal (.string s)) => some s
  | _ => none

end Arguments

/-- How a function is written. -/
inductive Rule
  /-- Under another name, with the same arguments. -/
  | rename (sqlName : String)
  /-- By a text with numbered placeholders for the arguments. -/
  | template (text : String)
  /-- By a rule of its own. -/
  | transform (write : Arguments → Except Failure String)
  /-- Not at all, with advice if there is any. -/
  | rejected (hint : Option String)

/-- The rule in words, for diagnostics. -/
def Rule.describe : Rule → String
  | .rename sqlName => "Rename(" ++ sqlName ++ ")"
  | .template text => "Template(" ++ text ++ ")"
  | .transform _ => "Transform"
  | .rejected none => "Rejected(None)"
  | .rejected (some hint) => "Rejected(Some(" ++ Text.escaped hint ++ "))"

end FlinkSql
