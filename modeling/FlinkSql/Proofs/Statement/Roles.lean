import FlinkSql.Proofs.Statement.Creation

/-!
# The two sides of a topic

A topic has properties for tables that read it and properties for tables that write it, and one right to override for both. A table
is created from those of its own side only: options that agree there (`ConnectorOptions.SameFor`) give the same statement or the same
failure, whatever they say of the other side and of other topics.
-/

namespace FlinkSql

/-- Settings of a topic that come to the same for a role: the same properties, with the same right to override. No settings are like
settings without properties, whether those might override or not. -/
def TopicOptions.SameFor (role : TableRole) : Option TopicOptions → Option TopicOptions → Prop
  | some t, some t' => t.properties role = t'.properties role ∧ t.mayOverride = t'.mayOverride
  | some t, none => t.properties role = .empty
  | none, some t => t.properties role = .empty
  | none, none => True

/-- Options that come to the same for a table that reads, or writes, a topic. -/
structure ConnectorOptions.SameFor (role : TableRole) (topic : String) (o o' : ConnectorOptions) : Prop where
  format : o.format = o'.format
  bootstrapServers : o.bootstrapServers = o'.bootstrapServers
  schemaRegistryUrl : o.schemaRegistryUrl = o'.schemaRegistryUrl
  properties : o.properties = o'.properties
  topic : TopicOptions.SameFor role (o.topic? topic) (o'.topic? topic)

namespace Entity

variable {role : TableRole}

/-- The layer of a topic depends on the options of its own role only. -/
theorem applyAll_topicLayer (e : Entity) {t t' : Option TopicOptions} (h : TopicOptions.SameFor role t t') (w : WithClause) :
    w.applyAll (t.toList.map (e.topicLayer role)) = w.applyAll (t'.toList.map (e.topicLayer role)) := by
  cases t with
  | none =>
    cases t' with
    | none => rfl
    | some t' => exact (w.applyAll_of_empty (e.topicLayer role t') h).symm
  | some t =>
    cases t' with
    | none => exact w.applyAll_of_empty (e.topicLayer role t) h
    | some t' =>
      obtain ⟨hproperties, hoverride⟩ := h
      have hlayer : e.topicLayer role t = e.topicLayer role t' := by rw [topicLayer, topicLayer, hproperties, hoverride]
      simp only [Option.toList_some, List.map_singleton, hlayer]

variable {o o' : ConnectorOptions} {e : Entity}

/-- The properties of a table depend on the options of its own role only. -/
theorem withClause_congr (h : o.SameFor role e.topicName o') (additional : Option Layer) :
    e.withClause o role additional = e.withClause o' role additional := by
  have hfixed : e.fixedProperties o = e.fixedProperties o' := by
    rw [fixedProperties, fixedProperties, h.format, h.bootstrapServers, h.schemaRegistryUrl]
  have hsplit : ∀ o : ConnectorOptions, e.layers o role additional =
      [⟨"global", o.properties, false⟩] ++ ((o.topic? e.topicName).toList.map (e.topicLayer role) ++ additional.toList) := fun _ => rfl
  rw [withClause, withClause, hfixed, hsplit, hsplit, h.properties, WithClause.applyAll_append, WithClause.applyAll_append]
  refine bind_congr fun next => ?_
  rw [WithClause.applyAll_append, WithClause.applyAll_append, e.applyAll_topicLayer h.topic]

/-- So does the statement that creates the table, and the way in which it fails. -/
theorem createSql_congr (h : o.SameFor role e.topicName o') (additional : Option Layer) :
    e.createSql o role additional = e.createSql o' role additional := by
  have hformat : o.checkFormat = o'.checkFormat := by
    rw [ConnectorOptions.checkFormat, ConnectorOptions.checkFormat, h.format]
  rw [createSql_eq, createSql_eq, hformat, withClause_congr h]

/-- A table that is written is created when the format is supported, the layers can be applied, and the table has a body: nothing is asked
of where it starts to read. -/
theorem sink_created_iff (e : Entity) (o : ConnectorOptions) (additional : Option Layer) :
    (∃ statement, e.createSql o .sink additional = .ok statement) ↔
      o.checkFormat = .ok () ∧ (∃ clause, e.withClause o .sink additional = .ok clause) ∧ ∃ body, e.bodySql .sink = .ok body := by
  simp only [createSql_eq_ok_iff]
  constructor
  · rintro ⟨statement, hformat, clause, hclause, -, body, hbody, -⟩
    exact ⟨hformat, ⟨clause, hclause⟩, body, hbody⟩
  · rintro ⟨hformat, ⟨clause, hclause⟩, body, hbody⟩
    exact ⟨_, hformat, clause, hclause, rfl, body, hbody, rfl⟩

/-- A table that is written and not created fails by its format, its layers or its body. -/
theorem sink_failure {additional : Option Layer} {failure : Failure} (h : e.createSql o .sink additional = .error failure) :
    o.checkFormat = .error failure ∨ e.withClause o .sink additional = .error failure ∨ e.bodySql .sink = .error failure := by
  obtain hformat | hclause | ⟨clause, -, hstart⟩ | hbody := createSql_eq_error h
  · exact Or.inl hformat
  · exact Or.inr (Or.inl hclause)
  · cases hstart
  · exact Or.inr (Or.inr hbody)

/-- Options that come to the same for a role over the topic of a table give the same outcome, be it a statement or a failure. A table that
is written never fails by where it would start to read: it is created when the format, the layers and the body allow it, and otherwise fails
as one of them does. -/
theorem roles_do_not_interfere (e : Entity) (additional : Option Layer) :
    (∀ role o o', ConnectorOptions.SameFor role e.topicName o o' → e.createSql o role additional = e.createSql o' role additional) ∧
    (∀ o, (∃ statement, e.createSql o .sink additional = .ok statement) ↔
      o.checkFormat = .ok () ∧ (∃ clause, e.withClause o .sink additional = .ok clause) ∧ ∃ body, e.bodySql .sink = .ok body) ∧
    (∀ o failure, e.createSql o .sink additional = .error failure →
      o.checkFormat = .error failure ∨ e.withClause o .sink additional = .error failure ∨ e.bodySql .sink = .error failure) :=
  ⟨fun _ _ _ h => createSql_congr h additional, fun o => e.sink_created_iff o additional, fun _ _ h => sink_failure h⟩

/-- The options of `writerOptions`, with a mode for tables that read the orders that does not exist, and with settings of another topic. -/
def readerOptions : ConnectorOptions where
  properties := .ofList [("sink.parallelism", "1")]
  topics := .ofList [
    ("orders", {
      source := .ofList [("scan.startup.mode", "beginning")]
      sink := .ofList [("sink.parallelism", "4"), ("sink.partitioner", "fixed")]
      mayOverride := true }),
    ("payments", { sink := .ofList [("sink.parallelism", "2")] })]

/-- What is wrong for tables that read the orders does not keep them from being written. A layer that is refused does. -/
theorem orders_written_alone :
    readerOptions.SameFor .sink ordersEntity.topicName writerOptions ∧
      (ordersEntity.createSql readerOptions .source none).toOption = none ∧
      ordersEntity.createSql readerOptions .sink none = .ok ordersSinkSql ∧
      (∃ clause, ordersEntity.withClause readerOptions .sink none = .ok clause) ∧
      ∃ failure, ordersEntity.createSql readerOptions .sink (some otherTopic) = .error failure ∧
        ordersEntity.withClause readerOptions .sink (some otherTopic) = .error failure := by
  have hsame : readerOptions.SameFor .sink ordersEntity.topicName writerOptions := ⟨rfl, rfl, rfl, rfl, rfl, rfl⟩
  have hformat : readerOptions.checkFormat = .ok () := by decide
  have hbody : (ordersEntity.bodySql .sink).toOption.isSome := by decide
  have hrefused : (ordersEntity.createSql readerOptions .sink (some otherTopic)).toOption = none := by decide +kernel
  obtain ⟨hagree, hcreated, -⟩ := roles_do_not_interfere ordersEntity none
  obtain ⟨-, -, hfails⟩ := roles_do_not_interfere ordersEntity (some otherTopic)
  have hsink := (hagree .sink _ _ hsame).trans ordersEntity_written
  obtain ⟨-, hclause, -⟩ := (hcreated readerOptions).mp ⟨_, hsink⟩
  refine ⟨hsame, by decide +kernel, hsink, hclause, ?_⟩
  cases hresult : ordersEntity.createSql readerOptions .sink (some otherTopic) with
  | ok statement =>
    rw [hresult] at hrefused
    cases hrefused
  | error failure =>
    refine ⟨failure, rfl, ?_⟩
    obtain h | h | h := hfails readerOptions failure hresult
    · cases hformat.symm.trans h
    · exact h
    · rw [h] at hbody
      cases hbody

end Entity

end FlinkSql
