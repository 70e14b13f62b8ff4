import FlinkSql.Expr.Rewrite
import FlinkSql.Expr.Sql
import FlinkSql.Query.Plan

/-!
# HAVING

A condition on groups is written against the projected row, but SQL evaluates it before the projection: every reference to an
output column is replaced by the expression that is projected under that name. A projection without named columns has nothing
to insert; then the condition is written against the first source.
-/

namespace FlinkSql.Having

/-- The expression of a projection that is a single scalar. -/
def scalar? : List Item → Option Expr
  | [item] => if item.label = Selection.scalarLabel then some item.expr else none
  | _ => none

/-- The first item whose label is the name, both normalized. -/
def itemNamed? (items : List Item) (name : String) : Option Item :=
  items.find? fun item => Name.column item.label == Name.column name

/-- What stands for a node of the condition: for an output column the projected expression, for the output row the only
projected scalar. -/
def inlined? (items : List Item) : Expr → Option Expr
  | .column p name => if p.isOutput then (itemNamed? items name).map (·.expr) else none
  | .row p => if p.isOutput then scalar? items else none
  | _ => none

/-- The column that a node reads from a parameter. -/
def columnOf? (p : Param) : Expr → Option String
  | .column q name => if q = p then some name else none
  | _ => none

/-- A reference to a parameter as a message shows it: with the last column that is read from it, if one is. -/
def reference (e : Expr) (p : Param) : String :=
  match (e.nodes.filterMap (columnOf? p)).getLast? with
  | some name => p.name ++ "." ++ name
  | none => p.name

/-- The condition in SQL. -/
def sql (functions : Registry) (plan : Plan) (condition : Expr) : Except Failure String :=
  let items := plan.selection.itemList
  if items.isEmpty then
    condition.sql functions { plan.aliases with output := some (tableAlias 0) }
  else
    let condition := condition.rewrite (inlined? items)
    match condition.params.find? Param.isOutput with
    | some p => .error (.expression (.notProjected (reference condition p)))
    | none => condition.sql functions plan.aliases

end FlinkSql.Having
