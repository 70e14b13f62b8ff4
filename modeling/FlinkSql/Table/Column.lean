import FlinkSql.Failure
import FlinkSql.Name

/-!
# Columns

A column of a table: its name, its type, whether it may be null, and whether it gives the time of an event.
-/

namespace FlinkSql

/-- The types of columns. -/
inductive ScalarType
  | boolean
  | tinyInt
  | smallInt
  | int
  | bigInt
  | float
  | double
  | decimal
  | string
  | bytes
  | date
  | timestamp
  deriving DecidableEq, Repr

instance : Named ScalarType where
  all := [.boolean, .tinyInt, .smallInt, .int, .bigInt, .float, .double, .decimal, .string, .bytes, .date, .timestamp]
  name
    | .boolean => "Boolean"
    | .tinyInt => "TinyInt"
    | .smallInt => "SmallInt"
    | .int => "Int"
    | .bigInt => "BigInt"
    | .float => "Float"
    | .double => "Double"
    | .decimal => "Decimal"
    | .string => "String"
    | .bytes => "Bytes"
    | .date => "Date"
    | .timestamp => "Timestamp"

/-- Where an event-time column takes its value from. -/
inductive EventTimeSource
  /-- From a field of the record. -/
  | payload
  /-- From the timestamp that Kafka keeps with the record. -/
  | kafkaTimestamp
  deriving DecidableEq, Repr

instance : Named EventTimeSource where
  all := [.payload, .kafkaTimestamp]
  name
    | .payload => "Payload"
    | .kafkaTimestamp => "KafkaTimestamp"

/-- A column of a table. -/
structure Column where
  /-- The name, before it is normalized. -/
  name : String
  type : ScalarType
  nullable : Bool := false
  /-- Precision and scale of a decimal. -/
  decimal : Option (UInt8 × UInt8) := none
  /-- Set if the column gives the time of an event. -/
  eventTime : Option EventTimeSource := none
  deriving DecidableEq

namespace Column

/-- Precision and scale of decimals that do not say otherwise. -/
def defaultDecimal : UInt8 × UInt8 := (38, 18)

/-- Whether the value is the timestamp that Kafka keeps. -/
def isKafkaTimestamp (c : Column) : Bool := c.eventTime == some .kafkaTimestamp

/-- A decimal type. -/
def decimalSql (c : Column) : Except Failure String :=
  let (precision, scale) := c.decimal.getD defaultDecimal
  if precision = 0 ∨ 38 < precision ∨ precision < scale then
    .error (.configuration (.decimalBounds c.name precision.toNat scale.toNat))
  else .ok ("DECIMAL(" ++ toString precision.toNat ++ ", " ++ toString scale.toNat ++ ")")

/-- The type of the column in SQL. -/
def typeSql (c : Column) : Except Failure String :=
  match c.type with
  | .boolean => .ok "BOOLEAN"
  | .tinyInt => .ok "TINYINT"
  | .smallInt => .ok "SMALLINT"
  | .int => .ok "INT"
  | .bigInt => .ok "BIGINT"
  | .float => .ok "FLOAT"
  | .double => .ok "DOUBLE"
  | .decimal => c.decimalSql
  | .string => .ok "STRING"
  | .bytes => .ok "BYTES"
  | .date => .ok "DATE"
  | .timestamp => .ok (if c.isKafkaTimestamp then "TIMESTAMP_LTZ(3)" else "TIMESTAMP(3)")

/-- The column in SQL. What Kafka keeps is read as metadata. -/
def sql (c : Column) : Except Failure String := do
  let type ← c.typeSql
  let lead := Name.quotedColumn c.name ++ " " ++ type
  return if c.isKafkaTimestamp then lead ++ " METADATA FROM 'timestamp' VIRTUAL"
    else if c.nullable then lead
    else lead ++ " NOT NULL"

end Column

/-- A type of rows that queries can read. -/
structure RowType where
  name : String
  columns : List Column

end FlinkSql
