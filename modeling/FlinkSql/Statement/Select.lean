import FlinkSql.Statement.Having
import FlinkSql.Statement.Legality

/-!
# SELECT

A legal plan as one SELECT statement: the projected items, the sources with their aliases, the conditions, the grouping keys
and the condition on groups. The clauses are written in this order, and the first one that has no SQL makes the whole fail.
-/

namespace FlinkSql.Plan

/-- One projected item. -/
def itemSql (functions : Registry) (aliases : Aliases) (item : Item) : Except Failure String := do
  let text ← item.expr.sql functions aliases
  return text ++ " AS " ++ Name.quotedColumn item.label

/-- The projected items. -/
def itemsSql (functions : Registry) (p : Plan) : Except Failure String :=
  match p.selection with
  | .wildcard none => .ok "*"
  | .wildcard (some param) => do
    let source ← p.aliases.resolve param
    return source ++ ".*"
  | .items items => do
    let texts ← items.mapM (itemSql functions p.aliases)
    return ", ".intercalate texts

/-- The column that holds the time of processing. -/
def processingColumn : String := "proctime"

/-- The column by which rows are put into windows. -/
def timeColumn : TimeAttribute → String
  | .column name => Name.quotedColumn name
  | .processing => Name.quotedColumn processingColumn

/-- What a window function is applied to: the table and the column with the time. -/
def windowedTable (table : String) (w : Window) : String :=
  "TABLE " ++ table ++ ", DESCRIPTOR(" ++ timeColumn w.time ++ ")"

/-- The window function. The size is converted first, then the slide of a hopping window. -/
def windowFunction (table : String) (w : Window) : Except Failure String := do
  let size ← Interval.ofSpan w.size
  match w.kind, w.slide with
  | .tumble, _ => return "TUMBLE(" ++ windowedTable table w ++ ", " ++ size.sql ++ ")"
  | .hop, some slide => do
    let slide ← Interval.ofSpan slide
    return "HOP(" ++ windowedTable table w ++ ", " ++ slide.sql ++ ", " ++ size.sql ++ ")"
  | .hop, none => .error (.constraint .hopWithoutSlide)
  | .session, _ => return "SESSION(" ++ windowedTable table w ++ ", " ++ size.sql ++ ")"

/-- A table cut into windows. -/
def windowSql (table : String) (w : Window) : Except Failure String := do
  let function ← windowFunction table w
  return "TABLE(" ++ function ++ ")"

/-- The first source, cut into windows if there is a window. -/
def fromSql (table : String) : Option Window → Except Failure String
  | none => .ok table
  | some w => windowSql table w

/-- The joined tables from a position on, each with its condition. -/
def joinsSql (functions : Registry) (aliases : Aliases) : Nat → List (String × Predicate) → Except Failure String
  | _, [] => .ok ""
  | index, (table, predicate) :: rest => do
    let condition ← predicate.body.sql functions aliases
    let others ← joinsSql functions aliases (index + 1) rest
    return " JOIN " ++ table ++ " AS " ++ tableAlias index ++ " ON " ++ condition ++ others

/-- The conditions on rows. -/
def wheresSql (functions : Registry) (p : Plan) : Except Failure String := do
  let texts ← p.wheres.mapM fun predicate => predicate.body.sql functions p.aliases
  return if texts.isEmpty then "" else " WHERE " ++ " AND ".intercalate texts

/-- The names of the window bounds in SQL. -/
def windowKeys : List String := ["window_start", "window_end"]

/-- The grouping keys; none if the query does not group. A windowed query that groups or aggregates groups by the bounds of
the window, whether the caller names them or not. -/
def groupKeys (functions : Registry) (p : Plan) : Except Failure (Option (List String)) :=
  match p.grouping with
  | some keys => do
    let texts ← keys.itemList.mapM fun item => item.expr.sql functions p.aliases
    return some (withBounds texts)
  | none => .ok (if p.window.isSome ∧ p.hasAggregate then some (withBounds []) else none)
where
  /-- Adds the bounds of the window that are not among the keys. -/
  withBounds (texts : List String) : List String :=
    if p.window.isSome then texts ++ windowKeys.filter fun key => !texts.contains key else texts

/-- The grouping clause. -/
def groupBySql (functions : Registry) (p : Plan) : Except Failure String := do
  let keys ← p.groupKeys functions
  return match keys with
    | none => ""
    | some keys => " GROUP BY " ++ ", ".intercalate keys

/-- The statement up to the grouping keys. -/
def groupedSql (functions : Registry) (p : Plan) : Except Failure String := do
  p.check
  match p.tableNames.map Name.quotedObject with
  | [] => .error (.constraint .noSource)
  | first :: others => do
    let items ← p.itemsSql functions
    let source ← fromSql first p.window
    let joins ← joinsSql functions p.aliases 1 (others.zip p.joins)
    let wheres ← p.wheresSql functions
    let groups ← p.groupBySql functions
    return "SELECT " ++ items ++ " FROM " ++ source ++ " AS " ++ tableAlias 0 ++ joins ++ wheres ++ groups

/-- The plan as a SELECT statement, without a semicolon. -/
def selectSql (functions : Registry) (p : Plan) : Except Failure String := do
  let grouped ← p.groupedSql functions
  match p.having with
  | none => return grouped
  | some condition => do
    let text ← Having.sql functions p condition
    return grouped ++ " HAVING " ++ text

/-- The warnings that come with writing the plan: HAVING is reached, and the projection names no columns. -/
def selectWarnings (functions : Registry) (p : Plan) : List Warning :=
  match p.groupedSql functions, p.having with
  | .ok _, some _ => if p.selection.itemList.isEmpty then [.havingOnOutputRow] else []
  | _, _ => []

end FlinkSql.Plan
