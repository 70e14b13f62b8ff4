import FlinkSql.Proofs.Statement.Creation
import FlinkSql.Proofs.Table.Lasting

/-!
# The format of a table

The format is a reserved key, so no layer adds it, changes it or spells it in another way: a statement names the format of the options,
once. The options are checked without regard to letter case, and their format is written as it is given. So the statement names
the supported format in just those spellings of it that the options may have.
-/

namespace FlinkSql

/-- The key of the format. -/
def formatKey : String := "format"

/-- Properties give the format once, it is the supported one, and its key has no other spelling among them. -/
structure GivesSupportedFormat (properties : List (String × String)) : Prop where
  once : (properties.map (·.1)).count formatKey = 1
  value : ∀ value, (formatKey, value) ∈ properties → value = supportedFormat
  spelling : ∀ p ∈ properties, Text.equalsIgnoringCase formatKey p.1 = true → p.1 = formatKey

namespace Entity

variable {e : Entity} {o : ConnectorOptions} {role : TableRole} {additional : Option Layer} {clause : WithClause} {statement : String}

/-- Layers leave alone what the connector needs. -/
theorem fixedProperties_last (h : e.withClause o role additional = .ok clause) :
    (WithClause.fixed (e.fixedProperties o)).LastsIn clause :=
  WithClause.eq_applyEach_of_applyAll h ▸ WithClause.lastsIn_applyEach _ _

theorem isReserved_of_format {key : String} (h : Text.equalsIgnoringCase formatKey key = true) : WithClause.isReserved key = true :=
  List.any_eq_true.mpr ⟨formatKey, by decide, h⟩

/-- Among the keys that the connector needs the format is spelled in one way. -/
theorem eq_formatKey_of_mem_fixed {key : String} (hkey : key ∈ (e.fixedProperties o).map (·.1))
    (h : Text.equalsIgnoringCase formatKey key = true) : key = formatKey := by
  have hknown : key ∈ WithClause.reservedKeys := by
    rw [fixedProperties, List.map_append, List.mem_append, List.map_map] at hkey
    rcases hkey with hkey | hkey
    · exact List.mem_append_left ["avro-confluent.url"] hkey
    · obtain ⟨url, -, rfl⟩ := List.mem_map.mp hkey
      show "avro-confluent.url" ∈ WithClause.reservedKeys
      decide
  have hspelling : ∀ key ∈ WithClause.reservedKeys, Text.equalsIgnoringCase formatKey key = true → key = formatKey := by decide
  exact hspelling key hknown h

/-- The properties of a table have the format of the options under its key, and no other spelling of the key. -/
theorem format_of_withClause (h : e.withClause o role additional = .ok clause) :
    clause.keys.Nodup ∧ clause.get? formatKey = some o.format ∧
      ∀ key ∈ clause.keys, Text.equalsIgnoringCase formatKey key = true → key = formatKey := by
  have hlasts := fixedProperties_last h
  have hfixed : (WithClause.fixed (e.fixedProperties o)).keys = (e.fixedProperties o).map (·.1) := WithClause.keys_fixed _
  refine ⟨hlasts.nodup (hfixed ▸ e.nodup_fixedProperties o), ?_, fun key hkey hspelling => ?_⟩
  · rw [hlasts.reserved formatKey (by decide), WithClause.get?_fixed]
    rfl
  · rw [hlasts.mem_keys_iff (isReserved_of_format hspelling), hfixed] at hkey
    exact eq_formatKey_of_mem_fixed hkey hspelling

/-- A table that is created gives its format once and under one spelling of the key. The format is that of the options, which is the
supported one up to letter case; so it is the supported one exactly if the options spell it as such. -/
theorem gives_supported_format_iff (h : e.createSql o role additional = .ok statement) :
    ∃ properties, e.CreatesWith role properties statement ∧
      (properties.map (·.1)).count formatKey = 1 ∧
      (∀ value, (formatKey, value) ∈ properties ↔ value = o.format) ∧
      (∀ p ∈ properties, Text.equalsIgnoringCase formatKey p.1 = true → p.1 = formatKey) ∧
      Text.equalsIgnoringCase o.format supportedFormat = true ∧
      (GivesSupportedFormat properties ↔ o.format = supportedFormat) := by
  obtain ⟨hformat, clause, hclause, -, hcreates⟩ := createSql_eq_ok_iff.mp h
  obtain ⟨hnodup, hget, hspelling⟩ := format_of_withClause hclause
  have hmem : (formatKey, o.format) ∈ clause.pairs := WithClause.mem_pairs_of_get? hget
  have honce : (clause.pairs.map (·.1)).count formatKey = 1 :=
    List.count_eq_one_of_mem (clause.map_fst_pairs ▸ hnodup) (List.mem_map_of_mem hmem)
  have hvalue : ∀ value, (formatKey, value) ∈ clause.pairs ↔ value = o.format := by
    intro value
    constructor
    · intro hp
      exact Option.some.inj ((WithClause.get?_of_mem_pairs hnodup hp).symm.trans hget)
    · rintro rfl
      exact hmem
  have hpairs : ∀ p ∈ clause.pairs, Text.equalsIgnoringCase formatKey p.1 = true → p.1 = formatKey :=
    fun p hp => hspelling p.1 (clause.map_fst_pairs ▸ List.mem_map_of_mem hp)
  have haccepted : Text.equalsIgnoringCase o.format supportedFormat = true := by
    unfold ConnectorOptions.checkFormat at hformat
    split at hformat
    · assumption
    · cases hformat
  refine ⟨clause.pairs, hcreates, honce, hvalue, hpairs, haccepted, fun hgives => hgives.value _ hmem, fun hsame => ⟨honce, ?_, hpairs⟩⟩
  intro value hp
  rw [(hvalue value).mp hp, hsame]

/-- Options that spell the format as it is supported. -/
theorem orders_in_supported_format :
    ordersEntity.createSql writerOptions .sink none = .ok ordersSinkSql ∧
      ∃ properties, ordersEntity.CreatesWith .sink properties ordersSinkSql ∧ GivesSupportedFormat properties := by
  obtain ⟨properties, hcreates, -, -, -, -, hsupported⟩ := gives_supported_format_iff ordersEntity_written
  exact ⟨ordersEntity_written, properties, hcreates, hsupported.mpr rfl⟩

/-- The properties of the orders when the options spell the format in capital letters. -/
def capitalProperties : List (String × String) :=
  [("connector", "kafka"), ("topic", "orders"), ("format", "AVRO-CONFLUENT"), ("properties.bootstrap.servers", "localhost:9092")]

/-- The statement for the orders with these properties. -/
def capitalSql : String :=
  "CREATE TABLE IF NOT EXISTS `orders` (`amount` STRING NOT NULL) WITH ('connector'='kafka', 'topic'='orders', " ++
    "'format'='AVRO-CONFLUENT', 'properties.bootstrap.servers'='localhost:9092');"

/-- A format in capital letters is accepted and written as it is, though it is not the supported one. -/
theorem orders_in_capital_letters :
    ordersEntity.createSql { format := "AVRO-CONFLUENT" } .source none = .ok capitalSql ∧
      ordersEntity.CreatesWith .source capitalProperties capitalSql ∧ ¬GivesSupportedFormat capitalProperties := by
  have hcreate : ordersEntity.createSql { format := "AVRO-CONFLUENT" } .source none = .ok capitalSql :=
    eq_ok_of_toOption (by decide +kernel)
  have hbody : ordersEntity.bodySql .source = .ok "`amount` STRING NOT NULL" := eq_ok_of_toOption (by decide)
  have hformat : (formatKey, "AVRO-CONFLUENT") ∈ capitalProperties := by decide
  have hother : "AVRO-CONFLUENT" ≠ supportedFormat := by decide
  exact ⟨hcreate, ⟨_, hbody, by decide +kernel⟩, fun hgives => hother (hgives.value _ hformat)⟩

end Entity

end FlinkSql
