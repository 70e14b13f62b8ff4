import FlinkSql.Table.Connector
import FlinkSql.Table.Entity
import FlinkSql.Table.Startup

/-!
# CREATE TABLE

A table over a topic as a CREATE TABLE statement: its columns, and the properties of the connector built up layer by layer.
-/

namespace FlinkSql

/-- The side of a topic that a table is on. -/
def TableRole.text : TableRole → String
  | .source => "source"
  | .sink => "sink"

/-- The properties for one side of a topic. -/
def TopicOptions.properties (t : TopicOptions) : TableRole → Dict String
  | .source => t.source
  | .sink => t.sink

namespace Entity

/-- The keys that the connector itself needs. -/
def fixedProperties (e : Entity) (o : ConnectorOptions) : List (String × String) :=
  [("connector", "kafka"), ("topic", e.topicName), ("format", o.format),
    ("properties.bootstrap.servers", o.bootstrapServers)] ++
    o.schemaRegistryUrl.toList.map fun url => ("avro-confluent.url", url)

/-- The layer of a topic. -/
def topicLayer (e : Entity) (role : TableRole) (t : TopicOptions) : Layer :=
  ⟨"topic '" ++ e.topicName ++ "' " ++ role.text, t.properties role, t.mayOverride⟩

/-- The layers above the fixed keys, from the lowest up. -/
def layers (e : Entity) (o : ConnectorOptions) (role : TableRole) (additional : Option Layer) : List Layer :=
  ⟨"global", o.properties, false⟩ :: (o.topic? e.topicName).toList.map (e.topicLayer role) ++ additional.toList

/-- The properties of the table. -/
def withClause (e : Entity) (o : ConnectorOptions) (role : TableRole) (additional : Option Layer) :
    Except Failure WithClause :=
  (WithClause.fixed (e.fixedProperties o)).applyAll (e.layers o role additional)

/-- The table as a CREATE TABLE statement. Where it starts to read is checked only for a table that is read. -/
def createSql (e : Entity) (o : ConnectorOptions) (role : TableRole) (additional : Option Layer) :
    Except Failure String := do
  o.checkFormat
  let clause ← e.withClause o role additional
  if role = .source then Startup.check clause
  let body ← e.bodySql role
  return "CREATE TABLE IF NOT EXISTS " ++ Name.quotedObject e.objectName ++ " (" ++ body ++ ") " ++ clause.sql ++ ";"

end Entity

end FlinkSql
