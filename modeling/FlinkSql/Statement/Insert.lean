import FlinkSql.Statement.Select

/-!
# INSERT

The statement that runs a query and feeds its results to a table.
-/

namespace FlinkSql

/-- What the statement feeds. Both kinds are written alike. -/
inductive StatementKind
  /-- A stream of results. -/
  | stream
  /-- A table derived from the sources and kept up to date. -/
  | table
  deriving DecidableEq, Repr

instance : Named StatementKind where
  all := [.stream, .table]
  name
    | .stream => "Stream"
    | .table => "Table"

/-- Which results are emitted. -/
inductive OutputMode
  /-- Every change. -/
  | changes
  /-- Only final results, when a window closes. -/
  | final
  deriving DecidableEq, Repr

instance : Named OutputMode where
  all := [.changes, .final]
  name
    | .changes => "Changes"
    | .final => "Final"

/-- Where the results go. -/
structure InsertTarget where
  kind : StatementKind
  mode : OutputMode
  /-- The name of the table, before it is normalized. -/
  object : String
  /-- The topic behind the table. -/
  topic : String

namespace Plan

/-- The remark above a statement for a sink that replaces rows by key. -/
def upsertRemark (topic : String) : String :=
  "-- upsert sink: topic '" ++ topic ++ "' is keyed by the sink table's primary key\n"

/-- The plan as an INSERT statement. -/
def insertSql (functions : Registry) (p : Plan) (target : InsertTarget) : Except Failure String :=
  if target.mode = .final ∧ p.window.isNone then .error (.constraint .finalWithoutWindow)
  else do
    let select ← p.selectSql functions
    let insert := "INSERT INTO " ++ Name.quotedObject target.object ++ " " ++ select ++ ";"
    return match p.sinkMode with
      | .appendOnly => insert
      | .upsert => upsertRemark target.topic ++ insert

end Plan

end FlinkSql
