import FlinkSql.Expr.Basic

/-!
# Walking through an expression

The nodes of an expression, each before its children and these from left to right: a receiver before the arguments, a test
before both branches. What a query needs to know about an expression (its parameters, whether it aggregates) is read off this
list.
-/

namespace FlinkSql

mutual

/-- All nodes, outer before inner. -/
def Expr.nodes : Expr → List Expr
  | .literal v => [.literal v]
  | .column p name => [.column p name]
  | .row p => [.row p]
  | .member target name => .member target name :: target.nodes
  | .unary op operand => .unary op operand :: operand.nodes
  | .binary op left right => .binary op left right :: (left.nodes ++ right.nodes)
  | .conditional test yes no => .conditional test yes no :: (test.nodes ++ yes.nodes ++ no.nodes)
  | .coalesce left right => .coalesce left right :: (left.nodes ++ right.nodes)
  | .call f none args => .call f none args :: argNodes args
  | .call f (some receiver) args => .call f (some receiver) args :: (receiver.nodes ++ argNodes args)
  | .record members => .record members :: memberNodes members

/-- All nodes of the arguments. -/
def argNodes : List Expr → List Expr
  | [] => []
  | e :: rest => e.nodes ++ argNodes rest

/-- All nodes of the members. -/
def memberNodes : List (String × Expr) → List Expr
  | [] => []
  | (_, e) :: rest => e.nodes ++ memberNodes rest

end

namespace Expr

/-- The parameter that a node refers to by itself. -/
def param? : Expr → Option Param
  | .column p _ => some p
  | .row p => some p
  | _ => none

/-- The parameters of an expression, each once, in the order of their first use. -/
def params (e : Expr) : List Param := (e.nodes.filterMap param?).eraseDups

/-- Whether the node is a call of an aggregate. -/
def isAggregateCall : Expr → Bool
  | .call f _ _ => f.origin == .aggregate
  | _ => false

/-- Whether an aggregate is called anywhere in the expression. -/
def containsAggregate (e : Expr) : Bool := e.nodes.any isAggregateCall

end Expr

end FlinkSql
