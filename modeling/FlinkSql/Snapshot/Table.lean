import FlinkSql.Json.Reader
import FlinkSql.Snapshot.Plan
import FlinkSql.Table.Connector
import FlinkSql.Table.Entity

/-!
# Snapshots of tables and settings

Table definitions, layers of properties and connector options as JSON values and back. The fields of connector options may all
be missing; then they are as if nothing had been set.
-/

namespace FlinkSql

open Json (required optional)

/-- A dictionary as JSON. -/
def Dict.encode {α : Type} (write : α → Json) (d : Dict α) : Json :=
  .obj (d.entries.map fun (name, a) => (name, write a))

/-- The value of a field, or the given one if the field is missing. -/
def Json.fieldOr {α : Type} (read : Json → Option α) (otherwise : α) : Option Json → Option α
  | none => some otherwise
  | some v => read v

namespace Column

/-- Precision and scale as JSON. -/
def encodeDecimal (d : UInt8 × UInt8) : Json := .arr [.int d.1.toNat, .int d.2.toNat]

/-- Reads precision and scale. -/
def decodeDecimal : Json → Option (UInt8 × UInt8)
  | .arr [precision, scale] => do
    return (.ofNat (← precision.natBelow? 256), .ofNat (← scale.natBelow? 256))
  | _ => none

/-- A column as JSON. -/
def encode (c : Column) : Json :=
  .obj [("name", .str c.name), ("scalar_type", .ofNamed c.type), ("nullable", .bool c.nullable),
    ("decimal", .ofOption encodeDecimal c.decimal), ("event_time", .ofOption Json.ofNamed c.eventTime)]

/-- Reads a column. -/
def decode (j : Json) : Option Column := do
  let [name, type, nullable, decimal, eventTime] ← j.record?
    [required "name", required "scalar_type", required "nullable", optional "decimal", optional "event_time"] | none
  return {
    name := ← name.str?
    type := ← type.named?
    nullable := ← nullable.bool?
    decimal := ← decimal.nullable? decodeDecimal
    eventTime := ← eventTime.nullable? Json.named? }

end Column

namespace Entity

/-- A table definition as JSON. -/
def encode (e : Entity) : Json :=
  .obj [("object_name", .str e.objectName), ("topic_name", .str e.topicName),
    ("columns", .arr (e.columns.map Column.encode)), ("primary_key", .arr (e.primaryKey.map .str)),
    ("watermark_delay", .ofOption Span.encode e.watermarkDelay),
    ("proctime_column", .ofOption Json.str e.proctimeColumn)]

/-- Reads a table definition. -/
def decode (j : Json) : Option Entity := do
  let [object, topic, columns, key, delay, proctime] ← j.record?
    [required "object_name", required "topic_name", required "columns", required "primary_key",
      optional "watermark_delay", optional "proctime_column"] | none
  return {
    objectName := ← object.str?
    topicName := ← topic.str?
    columns := ← columns.list? Column.decode
    primaryKey := ← key.list? Json.str?
    watermarkDelay := ← delay.nullable? Span.decode
    proctimeColumn := ← proctime.nullable? Json.str? }

end Entity

namespace Layer

/-- A layer as JSON. -/
def encode (l : Layer) : Json :=
  .obj [("name", .str l.name), ("properties", l.properties.encode .str), ("allow_override", .bool l.mayOverride)]

/-- Reads a layer. -/
def decode (j : Json) : Option Layer := do
  let [name, properties, mayOverride] ←
    j.record? [required "name", required "properties", required "allow_override"] | none
  return ⟨← name.str?, ← properties.dict? Json.str?, ← mayOverride.bool?⟩

end Layer

namespace TopicOptions

/-- The settings of a topic as JSON. -/
def encode (t : TopicOptions) : Json :=
  .obj [("source", t.source.encode .str), ("sink", t.sink.encode .str), ("allow_override", .bool t.mayOverride)]

/-- Reads the settings of a topic. -/
def decode (j : Json) : Option TopicOptions := do
  let [source, sink, mayOverride] ← j.partialRecord? ["source", "sink", "allow_override"] | none
  return {
    source := ← Json.fieldOr (Json.dict? Json.str?) .empty source
    sink := ← Json.fieldOr (Json.dict? Json.str?) .empty sink
    mayOverride := ← Json.fieldOr Json.bool? false mayOverride }

end TopicOptions

namespace ConnectorOptions

/-- Connector options as JSON. -/
def encode (o : ConnectorOptions) : Json :=
  .obj [("bootstrap_servers", .str o.bootstrapServers), ("format", .str o.format),
    ("schema_registry_url", .ofOption Json.str o.schemaRegistryUrl), ("properties", o.properties.encode .str),
    ("topics", o.topics.encode TopicOptions.encode)]

/-- Reads connector options. -/
def decode (j : Json) : Option ConnectorOptions := do
  let [servers, format, url, properties, topics] ←
    j.partialRecord? ["bootstrap_servers", "format", "schema_registry_url", "properties", "topics"] | none
  let unset : ConnectorOptions := {}
  return {
    bootstrapServers := ← Json.fieldOr Json.str? unset.bootstrapServers servers
    format := ← Json.fieldOr Json.str? unset.format format
    schemaRegistryUrl := ← Json.fieldOr (Json.nullable? Json.str?) unset.schemaRegistryUrl url
    properties := ← Json.fieldOr (Json.dict? Json.str?) unset.properties properties
    topics := ← Json.fieldOr (Json.dict? TopicOptions.decode) unset.topics topics }

/-- Reads connector options from a JSON text. -/
def ofJson (text : String) : Except Failure ConnectorOptions :=
  match (Json.read? text).bind decode with
  | some options => .ok options
  | none => .error (.configuration .unreadableOptions)

end ConnectorOptions

end FlinkSql
