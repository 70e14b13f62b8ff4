import FlinkSql.Statement.CreateTable
import FlinkSql.Statement.Insert

/-!
# Scripts

All statements that deploy one query, in order: its source tables, the sink table, and the INSERT that runs it.
-/

namespace FlinkSql

/-- What statements are written with: the settings of the connector and the functions that are known. -/
structure Dialect where
  options : ConnectorOptions
  functions : Registry

namespace Dialect

/-- The name of the dialect, for diagnostics. -/
def name : String := "flink"

/-- The plan as a SELECT statement. -/
def select (d : Dialect) (p : Plan) : Except Failure String := p.selectSql d.functions

/-- The plan as an INSERT statement. -/
def insert (d : Dialect) (p : Plan) (target : InsertTarget) : Except Failure String := p.insertSql d.functions target

/-- A table as a CREATE TABLE statement. -/
def createTable (d : Dialect) (e : Entity) (role : TableRole) (additional : Option Layer) : Except Failure String :=
  e.createSql d.options role additional

/-- The statements that deploy a plan. A plan without topics reads the source tables by their names. -/
def script (d : Dialect) (p : Plan) (sources : List Entity) (sink : Entity) (kind : StatementKind)
    (mode : OutputMode) : Except Failure (List String) :=
  if sources.length ≠ p.sourceTypes.length then
    .error (.constraint (.tableCount sources.length p.sourceTypes.length))
  else do
    let p := if p.sourceTopics.isEmpty then p.withSourceTopics (sources.map (·.objectName)) else p
    let tables ← sources.mapM fun source => d.createTable source .source none
    let sinkTable ← d.createTable sink .sink none
    let insert ← d.insert p ⟨kind, mode, sink.objectName, sink.topicName⟩
    return tables ++ [sinkTable, insert]

/-- The statements of a script as one text, with empty lines between them. -/
def scriptText (statements : List String) : String := "\n\n".intercalate statements

end Dialect

end FlinkSql
