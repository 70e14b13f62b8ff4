import FlinkSql.Query.Draft

/-!
# Queries step by step

The way queries are written: from one row type, then joins, filters, a projection, grouping keys, a condition on groups and a
window, in any order. Each step sets the clause and the flag that goes with it. A projection that calls an aggregate marks the
query as aggregating; the mark stays when another projection is set.
-/

namespace FlinkSql

namespace Query

/-- A step in writing a query. -/
inductive Step
  /-- Joins a row type on a condition. -/
  | join (row : String) (on : Expr)
  | filter (condition : Expr)
  | select (projection : Expr)
  | groupBy (keys : Expr)
  /-- A condition on the projected row. -/
  | having (condition : Expr)
  | window (spec : Window)
  /-- Writes to a sink that replaces rows by key. -/
  | upsert

/-- What a step does to the draft. -/
def Step.draftSteps : Step → List Draft.Step
  | .join row on => [.addSource row, .addJoin on]
  | .filter condition => [.addWhere condition]
  | .select projection =>
    if projection.containsAggregate then [.markAggregate, .setSelect projection] else [.setSelect projection]
  | .groupBy keys => [.setGroupBy keys, .markGroupBy]
  | .having condition => [.setHaving condition, .markHaving]
  | .window spec => [.setWindow spec]
  | .upsert => [.setSinkMode .upsert]

/-- A query that reads a row type. -/
def ofSource (row : String) : Draft := Draft.empty.addSource row

/-- Takes a step. -/
def take (d : Draft) (s : Step) : Draft := s.draftSteps.foldl Draft.take d

/-- The query with all its steps. -/
def run (row : String) (steps : List Step) : Draft := steps.foldl take (ofSource row)

end Query

end FlinkSql
