import FlinkSql.Table.Column
import FlinkSql.Time.Interval

/-!
# Tables

A table over a topic: its columns, the watermark of its event time, a column with the time of processing, and, if it is
written to, its primary key.
-/

namespace FlinkSql

/-- A table over a topic. -/
structure Entity where
  /-- The name of the table, before it is normalized. -/
  objectName : String
  topicName : String
  columns : List Column
  /-- The columns of the primary key. -/
  primaryKey : List String := []
  /-- How late an event may be. -/
  watermarkDelay : Option Span := none
  /-- The name of a column with the time of processing. -/
  proctimeColumn : Option String := none
  deriving DecidableEq

/-- Whether a table is read or written. -/
inductive TableRole
  | source
  | sink
  deriving DecidableEq, Repr

instance : Named TableRole where
  all := [.source, .sink]
  name
    | .source => "Source"
    | .sink => "Sink"

namespace Entity

/-- A table named after its topic. -/
def ofRow (row : RowType) (topic : String) : Entity :=
  { objectName := topic, topicName := topic, columns := row.columns }

/-- The column with the time of an event, if there is one. There may be one only, and it has to be a timestamp. -/
def eventTimeColumn (e : Entity) : Except Failure (Option Column) :=
  match e.columns.filter (·.eventTime.isSome) with
  | [] => .ok none
  | first :: second :: _ => .error (.configuration (.twoEventTimes e.objectName first.name second.name))
  | [column] =>
    if column.type = .timestamp then .ok (some column)
    else .error (.configuration (.eventTimeType column.name (Named.name column.type)))

/-- The delay of the watermark as an interval. -/
def delay (e : Entity) : Except Failure (Option Interval) :=
  match e.watermarkDelay with
  | none => .ok none
  | some span => do
    let interval ← Interval.ofSpan span
    return some interval

/-- The watermark of a column. -/
def watermarkSql (column : Column) (delay : Option Interval) : String :=
  let name := Name.quotedColumn column.name
  let lag := match delay with
    | some interval => " - " ++ interval.sql
    | none => ""
  "WATERMARK FOR " ++ name ++ " AS " ++ name ++ lag

/-- The watermark of the table: present if there is a column with the time of an event. -/
def watermark (e : Entity) : Except Failure (List String) := do
  let delay ← e.delay
  let column ← e.eventTimeColumn
  match column, delay with
  | some column, delay => return [watermarkSql column delay]
  | none, some _ => .error (.configuration (.delayWithoutEventTime e.objectName))
  | none, none => return []

/-- One column of the primary key. It has to be a column of the table. -/
def keySql (e : Entity) (key : String) : Except Failure String :=
  if e.columns.any fun c => Name.column c.name == Name.column key then .ok (Name.quotedColumn key)
  else .error (.configuration (.unknownKey key e.objectName))

/-- The primary key; only a table that is written has one. -/
def primaryKeySql (e : Entity) : TableRole → Except Failure (List String)
  | .source => .ok []
  | .sink =>
    if e.primaryKey.isEmpty then .ok []
    else do
      let keys ← e.primaryKey.mapM e.keySql
      return ["PRIMARY KEY (" ++ ", ".intercalate keys ++ ") NOT ENFORCED"]

/-- The column with the time of processing. -/
def proctimeSql (e : Entity) : List String :=
  e.proctimeColumn.toList.map fun name => Name.quotedColumn name ++ " AS PROCTIME()"

/-- What stands between the parentheses of CREATE TABLE. -/
def bodySql (e : Entity) (role : TableRole) : Except Failure String :=
  if e.columns.isEmpty then .error (.configuration (.noColumns e.objectName))
  else do
    let columns ← e.columns.mapM Column.sql
    let watermark ← e.watermark
    let primaryKey ← e.primaryKeySql role
    return ", ".intercalate (columns ++ e.proctimeSql ++ watermark ++ primaryKey)

end Entity

end FlinkSql
