import FlinkSql.Proofs.Outcome
import FlinkSql.Proofs.Table.Precedence
import FlinkSql.Statement.CreateTable

/-!
# What a table is created with

A CREATE TABLE statement names the table, and holds its body and its properties. The properties are what the layers of the table come
to; if one of the layers clashes with those below it, there is no statement.
-/

namespace FlinkSql

/-- A key with its value, each as a string. -/
def pairSql (p : String × String) : String := Text.quotedString p.1 ++ "=" ++ Text.quotedString p.2

/-- Properties as a WITH clause. -/
def propertiesSql (properties : List (String × String)) : String := "WITH (" ++ ", ".intercalate (properties.map pairSql) ++ ")"

theorem WithClause.sql_eq (w : WithClause) : w.sql = propertiesSql w.pairs := by
  rw [WithClause.sql, propertiesSql, pairs, List.map_map]
  rfl

/-- What is checked of where a table starts to read: nothing, unless it is read. -/
def TableRole.checkStart : TableRole → WithClause → Except Failure Unit
  | .source, clause => Startup.check clause
  | .sink, _ => .ok ()

namespace Entity

variable {e : Entity} {o : ConnectorOptions} {role : TableRole} {additional : Option Layer} {statement : String} {failure : Failure}

/-- The statement with a body and properties. -/
def statementSql (e : Entity) (body : String) (properties : List (String × String)) : String :=
  "CREATE TABLE IF NOT EXISTS " ++ Name.quotedObject e.objectName ++ " (" ++ body ++ ") " ++ propertiesSql properties ++ ";"

/-- The checks and the parts of a statement, one after the other. -/
theorem createSql_eq (e : Entity) (o : ConnectorOptions) (role : TableRole) (additional : Option Layer) :
    e.createSql o role additional = do
      o.checkFormat
      let clause ← e.withClause o role additional
      role.checkStart clause
      let body ← e.bodySql role
      return e.statementSql body clause.pairs := by
  have hbody : ∀ clause : WithClause, (do
      let body ← e.bodySql role
      return "CREATE TABLE IF NOT EXISTS " ++ Name.quotedObject e.objectName ++ " (" ++ body ++ ") " ++ clause.sql ++ ";") =
        (do
          let body ← e.bodySql role
          return e.statementSql body clause.pairs : Except Failure String) := by
    intro clause
    rw [clause.sql_eq]
    rfl
  unfold createSql
  refine bind_congr fun _ => bind_congr fun clause => ?_
  rw [hbody]
  cases role with
  | source => exact if_pos rfl
  | sink => exact if_neg nofun

/-- A statement creates a table for a role with properties. -/
def CreatesWith (e : Entity) (role : TableRole) (properties : List (String × String)) (statement : String) : Prop :=
  ∃ body, e.bodySql role = .ok body ∧ statement = e.statementSql body properties

/-- A table is created if nothing is checked in vain and it has a body. -/
theorem createSql_eq_ok_iff : e.createSql o role additional = .ok statement ↔
    o.checkFormat = .ok () ∧ ∃ clause, e.withClause o role additional = .ok clause ∧
      role.checkStart clause = .ok () ∧ e.CreatesWith role clause.pairs statement := by
  rw [createSql_eq, bind_eq_ok]
  simp only [bind_eq_ok, CreatesWith]
  constructor
  · rintro ⟨_, hformat, clause, hclause, _, hstart, body, hbody, h⟩
    exact ⟨hformat, clause, hclause, hstart, body, hbody, (Except.ok.inj h).symm⟩
  · rintro ⟨hformat, clause, hclause, hstart, body, hbody, rfl⟩
    exact ⟨(), hformat, clause, hclause, (), hstart, body, hbody, rfl⟩

/-- A table that is not created fails at one of the steps. -/
theorem createSql_eq_error (h : e.createSql o role additional = .error failure) :
    o.checkFormat = .error failure ∨ e.withClause o role additional = .error failure ∨
      (∃ clause, e.withClause o role additional = .ok clause ∧ role.checkStart clause = .error failure) ∨
      e.bodySql role = .error failure := by
  rw [createSql_eq] at h
  obtain hformat | ⟨_, -, h⟩ := bind_eq_error.mp h
  · exact Or.inl hformat
  obtain hclause | ⟨clause, hclause, h⟩ := bind_eq_error.mp h
  · exact Or.inr (Or.inl hclause)
  obtain hstart | ⟨_, -, h⟩ := bind_eq_error.mp h
  · exact Or.inr (Or.inr (Or.inl ⟨clause, hclause, hstart⟩))
  obtain hbody | ⟨_, -, h⟩ := bind_eq_error.mp h
  · exact Or.inr (Or.inr (Or.inr hbody))
  · cases h

/-- The keys that the connector needs are not repeated. -/
theorem nodup_fixedProperties (e : Entity) (o : ConnectorOptions) : ((e.fixedProperties o).map (·.1)).Nodup := by
  have hkeys : (e.fixedProperties o).map (·.1) = ["connector", "topic", "format", "properties.bootstrap.servers"] ++
      o.schemaRegistryUrl.toList.map fun _ => "avro-confluent.url" := by
    rw [fixedProperties, List.map_append, List.map_map]
    rfl
  rw [hkeys]
  cases o.schemaRegistryUrl with
  | none => decide
  | some url =>
    rw [Option.toList_some, List.map_singleton]
    decide

/-! ## Layer by layer -/

/-- With a supported format, a table is refused as a matter of configuration if one of its layers clashes with those below it.
Otherwise its layers come to properties that list each key once, where it is set first and with the value that is set last, and
every statement for the table has these properties. -/
theorem layers_by_precedence (e : Entity) {o : ConnectorOptions} (hformat : o.checkFormat = .ok ()) (role : TableRole)
    (additional : Option Layer) :
    (Layers.Clash (e.fixedProperties o) (e.layers o role additional) →
      ∃ failure, e.createSql o role additional = .error failure ∧ failure.kind = .configuration) ∧
    (¬Layers.Clash (e.fixedProperties o) (e.layers o role additional) →
      ∃ properties, (e.withClause o role additional).map WithClause.pairs = .ok properties ∧
        Layers.Lists (e.fixedProperties o) (e.layers o role additional) properties ∧
        ∀ statement, e.createSql o role additional = .ok statement → e.CreatesWith role properties statement) := by
  rcases Layers.applyAll_settles (e.nodup_fixedProperties o) (e.layers o role additional) with
    ⟨hclash, cause, hclause⟩ | ⟨hclean, clause, hclause, hsettled⟩
  · refine ⟨fun _ => ⟨.configuration cause, ?_, rfl⟩, fun hclean => absurd hclash hclean⟩
    rw [createSql_eq, hformat, withClause, hclause]
    rfl
  · refine ⟨fun hclash => absurd hclash hclean, fun _ => ⟨clause.pairs, ?_, hsettled.lists, fun statement h => ?_⟩⟩
    · rw [withClause, hclause]
      rfl
    · obtain ⟨-, other, hother, -, hcreates⟩ := createSql_eq_ok_iff.mp h
      cases hclause.symm.trans hother
      exact hcreates

/-- Orders, as a table and a topic. -/
def ordersEntity : Entity where
  objectName := "orders"
  topicName := "orders"
  columns := [⟨"Amount", .string, false, none, none⟩]

/-- One writer for each table, and four for the orders. -/
def writerOptions : ConnectorOptions where
  properties := .ofList [("sink.parallelism", "1")]
  topics := .ofList [("orders", { sink := .ofList [("sink.parallelism", "4"), ("sink.partitioner", "fixed")], mayOverride := true })]

/-- A layer that spells a reserved key in its own way. -/
def otherTopic : Layer := ⟨"additional", .ofList [("Topic", "payments")], true⟩

/-- The statement for the orders as they are written. -/
def ordersSinkSql : String :=
  "CREATE TABLE IF NOT EXISTS `orders` (`amount` STRING NOT NULL) WITH ('connector'='kafka', 'topic'='orders', " ++
    "'format'='avro-confluent', 'properties.bootstrap.servers'='localhost:9092', 'sink.parallelism'='4', " ++
    "'sink.partitioner'='fixed');"

theorem ordersEntity_written : ordersEntity.createSql writerOptions .sink none = .ok ordersSinkSql :=
  eq_ok_of_toOption (by decide +kernel)

/-- The settings of the topic count before those for all tables, at the place of the latter; a reserved key is refused on top of them, be
it spelled in another way. -/
theorem orders_by_precedence :
    writerOptions.checkFormat = .ok () ∧
      (∃ failure, ordersEntity.createSql writerOptions .sink (some otherTopic) = .error failure ∧ failure.kind = .configuration) ∧
      ordersEntity.createSql writerOptions .sink none = .ok ordersSinkSql ∧
      ordersEntity.CreatesWith .sink [("connector", "kafka"), ("topic", "orders"), ("format", "avro-confluent"),
        ("properties.bootstrap.servers", "localhost:9092"), ("sink.parallelism", "4"), ("sink.partitioner", "fixed")]
        ordersSinkSql := by
  have hformat : writerOptions.checkFormat = .ok () := by decide
  have hclash : Layers.Clash (ordersEntity.fixedProperties writerOptions) (ordersEntity.layers writerOptions .sink (some otherTopic)) := by
    refine ⟨ordersEntity.layers writerOptions .sink none, otherTopic, [], rfl, ?_⟩
    decide
  obtain ⟨hrefused, -⟩ := layers_by_precedence ordersEntity hformat .sink (some otherTopic)
  obtain ⟨hfails, hlisted⟩ := layers_by_precedence ordersEntity hformat .sink none
  have hclean : ¬Layers.Clash (ordersEntity.fixedProperties writerOptions) (ordersEntity.layers writerOptions .sink none) := by
    intro h
    obtain ⟨failure, hfailure, -⟩ := hfails h
    cases ordersEntity_written.symm.trans hfailure
  obtain ⟨properties, hproperties, -, hcreates⟩ := hlisted hclean
  have hpairs : ((ordersEntity.withClause writerOptions .sink none).map WithClause.pairs).toOption = some [("connector", "kafka"),
      ("topic", "orders"), ("format", "avro-confluent"), ("properties.bootstrap.servers", "localhost:9092"),
      ("sink.parallelism", "4"), ("sink.partitioner", "fixed")] := by
    decide
  cases (eq_ok_of_toOption hpairs).symm.trans hproperties
  exact ⟨hformat, hrefused hclash, ordersEntity_written, hcreates _ ordersEntity_written⟩

end Entity

end FlinkSql
