import FlinkSql.Query.Plan

/-!
# Drafts of plans

A draft gathers the clauses of a query one by one and gives a plan at any time. Its flags are set by steps of their own; that
they agree with the clauses is left to whoever takes the steps.
-/

namespace FlinkSql

/-- A plan in the making. -/
structure Draft where
  sourceTypes : List String := []
  joins : List Predicate := []
  wheres : List Predicate := []
  projection : Option Expr := none
  grouping : Option Selection := none
  having : Option Expr := none
  window : Option Window := none
  hasGroupBy : Bool := false
  hasAggregate : Bool := false
  hasHaving : Bool := false
  sinkMode : SinkMode := .appendOnly

namespace Draft

/-- A draft without any clause. -/
def empty : Draft := {}

/-- Reads one more row type. One that is read already stays where it is. -/
def addSource (d : Draft) (row : String) : Draft :=
  if row ∈ d.sourceTypes then d else { d with sourceTypes := d.sourceTypes ++ [row] }

/-- A step in making a plan. -/
inductive Step
  | addSource (row : String)
  | addJoin (on : Expr)
  | addWhere (condition : Expr)
  | setSelect (projection : Expr)
  | setGroupBy (keys : Expr)
  | setHaving (condition : Expr)
  | setWindow (window : Window)
  | setSinkMode (mode : SinkMode)
  | markGroupBy
  | markAggregate
  | markHaving

/-- Takes a step. Conditions are added to those before; of projections, grouping keys, windows and modes the last one counts. -/
def take (d : Draft) : Step → Draft
  | .addSource row => d.addSource row
  | .addJoin on => { d with joins := d.joins ++ [.ofExpr on] }
  | .addWhere condition => { d with wheres := d.wheres ++ [.ofExpr condition] }
  | .setSelect projection => { d with projection := some projection }
  | .setGroupBy keys => { d with grouping := some (.ofExpr keys) }
  | .setHaving condition => { d with having := some condition }
  | .setWindow window => { d with window := some window }
  | .setSinkMode mode => { d with sinkMode := mode }
  | .markGroupBy => { d with hasGroupBy := true }
  | .markAggregate => { d with hasAggregate := true }
  | .markHaving => { d with hasHaving := true }

/-- The plan as it stands. Without a projection whole rows are selected. -/
def plan (d : Draft) : Plan where
  sourceTypes := d.sourceTypes
  sourceTopics := []
  joins := d.joins
  wheres := d.wheres
  projection := d.projection
  selection := (d.projection.map Selection.ofExpr).getD (.wildcard none)
  grouping := d.grouping
  having := d.having
  window := d.window
  hasGroupBy := d.hasGroupBy
  hasAggregate := d.hasAggregate
  hasHaving := d.hasHaving
  sinkMode := d.sinkMode

/-- The warnings that come with making the plan. -/
def warnings (d : Draft) : List Warning :=
  match d.projection with
  | some projection => Selection.warnings .select projection
  | none => []

end Draft

end FlinkSql
