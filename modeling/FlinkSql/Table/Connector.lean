import FlinkSql.Table.Properties

/-!
# Connector options

The settings of the Kafka connector: where the brokers are, the format of the records, and properties for all tables and for
single topics.
-/

namespace FlinkSql

/-- Properties for one topic. -/
structure TopicOptions where
  /-- For tables that read the topic. -/
  source : Dict String := .empty
  /-- For tables that write the topic. -/
  sink : Dict String := .empty
  /-- Whether these properties may replace those for all tables. -/
  mayOverride : Bool := false

/-- The only format that records may have. -/
def supportedFormat : String := "avro-confluent"

/-- Settings of the connector. -/
structure ConnectorOptions where
  bootstrapServers : String := "localhost:9092"
  format : String := supportedFormat
  schemaRegistryUrl : Option String := none
  /-- Properties for all tables. -/
  properties : Dict String := .empty
  /-- Properties for single topics. -/
  topics : Dict TopicOptions := .empty

namespace ConnectorOptions

/-- The settings for a topic. -/
def topic? (o : ConnectorOptions) (topic : String) : Option TopicOptions := o.topics.get? topic

/-- Refuses every format but the supported one; letter case does not matter. -/
def checkFormat (o : ConnectorOptions) : Except Failure Unit :=
  if Text.equalsIgnoringCase o.format supportedFormat then .ok ()
  else .error (.configuration (.unsupportedFormat o.format))

end ConnectorOptions

end FlinkSql
