import FlinkSql.Proofs.Statement.Creation
import FlinkSql.Proofs.Statement.Writing
import FlinkSql.Statement.Script

/-!
# Caller texts stay inside statements

Names, topics, literals, patterns, property keys and values are texts of the caller, and may hold quotes, brackets, semicolons
and line breaks. In what is written of a plan and of a table they change nothing: the statement ends outside quoted regions, its
brackets are closed, and its only semicolon is its last character.
-/

namespace FlinkSql

open Text

/-- The outcome of a part of a statement whose failures do not matter. -/
abbrev Piece : Except Failure String → Prop := Outcome (fun _ => True) Neutral

/-- The same for several parts. -/
abbrev Pieces : Except Failure (List String) → Prop := Outcome (fun _ => True) fun texts => ∀ t ∈ texts, Neutral t

/-! ## Columns -/

namespace Column

/-- The type of a decimal column, if it is written, has balanced parentheses and nothing else to read. -/
theorem neutral_decimalSql (c : Column) : Piece c.decimalSql := by
  rw [decimalSql]
  obtain ⟨precision, scale⟩ := c.decimal.getD defaultDecimal
  show Piece (if precision = 0 ∨ 38 < precision ∨ precision < scale then _ else _)
  split
  · exact trivial
  · have hopen : Shifts [] "DECIMAL(" ['('] := rfl
    exact (((hopen.then (neutral_nat _)).then neutral_comma).then (neutral_nat _)).append (closing [])

/-- The type of a column is written in words and balanced parentheses. -/
theorem neutral_typeSql (c : Column) : Piece c.typeSql := by
  cases htype : c.type with
  | decimal =>
    rw [typeSql, htype]
    exact c.neutral_decimalSql
  | timestamp =>
    rw [typeSql, htype]
    show Neutral (if c.isKafkaTimestamp then "TIMESTAMP_LTZ(3)" else "TIMESTAMP(3)")
    split
    · exact rfl
    · exact rfl
  | _ =>
    rw [typeSql, htype]
    exact (show Neutral _ from rfl)

/-- A column is its quoted name and its type. -/
theorem neutral_sql (c : Column) : Piece c.sql := by
  refine c.neutral_typeSql.bind fun type htype => ?_
  have hlead : Neutral (Name.quotedColumn c.name ++ " " ++ type) :=
    ((neutral_quotedName _).append neutral_blank).append htype
  have hmetadata : Neutral " METADATA FROM 'timestamp' VIRTUAL" := rfl
  have hnotNull : Neutral " NOT NULL" := rfl
  show Neutral (if c.isKafkaTimestamp then _ else if c.nullable then _ else _)
  split
  · exact hlead.append hmetadata
  · split
    · exact hlead
    · exact hlead.append hnotNull

end Column

/-! ## Tables -/

namespace Entity

/-- A watermark names a column twice, quoted, and may subtract an interval. -/
theorem neutral_watermarkSql (column : Column) (delay : Option Interval) : Neutral (watermarkSql column delay) := by
  have hword : Neutral "WATERMARK FOR " := rfl
  have has : Neutral " AS " := rfl
  have hminus : Neutral " - " := rfl
  have hname : Neutral (Name.quotedColumn column.name) := neutral_quotedName _
  have hfor := ((hword.append hname).append has).append hname
  cases delay with
  | none => exact hfor.append neutral_empty
  | some interval => exact hfor.append (hminus.append (neutral_interval interval))

/-- The watermark of an entity is neutral, if it has one. -/
theorem neutral_watermark (e : Entity) : Pieces e.watermark := by
  have hdelay : Outcome (fun _ => True) (fun _ => True) e.delay := Outcome.intro (fun _ _ => trivial) fun _ _ => trivial
  have hcolumn : Outcome (fun _ => True) (fun _ => True) e.eventTimeColumn :=
    Outcome.intro (fun _ _ => trivial) fun _ _ => trivial
  refine hdelay.bind fun delay _ => hcolumn.bind fun column _ => ?_
  split
  · exact List.forall_mem_singleton.mpr (neutral_watermarkSql _ _)
  · exact trivial
  · exact fun t ht => absurd ht List.not_mem_nil

/-- The primary key lists quoted names. -/
theorem neutral_primaryKeySql (e : Entity) (role : TableRole) : Pieces (e.primaryKeySql role) := by
  have hnone : Pieces (.ok []) := fun t ht => absurd ht List.not_mem_nil
  cases role with
  | source => exact hnone
  | sink =>
    rw [primaryKeySql]
    split
    · exact hnone
    · have hkey : ∀ key ∈ e.primaryKey, Piece (e.keySql key) := by
        intro key _
        rw [keySql]
        split
        · exact neutral_quotedName _
        · exact trivial
      refine (Outcome.mapM hkey).bind fun keys hkeys => List.forall_mem_singleton.mpr ?_
      have hopen : Shifts [] "PRIMARY KEY (" ['('] := rfl
      have hclose : Shifts ['('] ") NOT ENFORCED" [] := rfl
      exact (hopen.then (neutral_comma.intercalate hkeys)).append hclose

/-- The column of the processing time is a quoted name and fixed words. -/
theorem neutral_proctimeSql (e : Entity) : ∀ t ∈ e.proctimeSql, Neutral t := by
  intro t ht
  obtain ⟨name, -, rfl⟩ := List.mem_map.mp ht
  have has : Neutral " AS PROCTIME()" := rfl
  exact (neutral_quotedName _).append has

/-- The body of a table is neutral, whatever its columns are called. -/
theorem neutral_bodySql (e : Entity) (role : TableRole) : Piece (e.bodySql role) := by
  rw [bodySql]
  split
  · exact trivial
  · have hcolumns : Pieces (e.columns.mapM Column.sql) := Outcome.mapM fun c _ => c.neutral_sql
    refine hcolumns.bind fun columns hcolumns => e.neutral_watermark.bind fun watermark hwatermark =>
      (e.neutral_primaryKeySql role).bind fun primaryKey hprimaryKey => neutral_comma.intercalate ?_
    simp only [List.forall_mem_append]
    exact ⟨⟨⟨hcolumns, e.neutral_proctimeSql⟩, hwatermark⟩, hprimaryKey⟩

end Entity

/-- Keys and values of properties may hold any text. -/
theorem neutral_propertiesSql (properties : List (String × String)) : Neutral (propertiesSql properties) := by
  have hproperty : ∀ t ∈ properties.map pairSql, Neutral t := by
    intro t ht
    obtain ⟨p, -, rfl⟩ := List.mem_map.mp ht
    have hequals : Neutral "=" := rfl
    exact ((neutral_quotedString _).append hequals).append (neutral_quotedString _)
  have hopen : Shifts [] "WITH (" ['('] := rfl
  exact (hopen.then (neutral_comma.intercalate hproperty)).append (closing [])

/-! ## Statements -/

/-- A table is written as a confined statement. -/
theorem Entity.confined_createSql (e : Entity) (o : ConnectorOptions) (role : TableRole) (additional : Option Layer) :
    Outcome (fun _ => True) Confined (e.createSql o role additional) := by
  refine Outcome.intro (fun text h => ?_) fun _ _ => trivial
  obtain ⟨-, clause, -, -, body, hbody, rfl⟩ := createSql_eq_ok_iff.mp h
  have hcreate : Neutral "CREATE TABLE IF NOT EXISTS " := rfl
  have hopen : Shifts [] " (" ['('] := rfl
  have hclose : Shifts ['('] ") " [] := rfl
  have htable := Shifts.append (hcreate.append (neutral_quotedName (Name.object e.objectName))) hopen
  have hclosed := (htable.then ((e.neutral_bodySql role).value hbody)).append hclose
  exact Neutral.confined (hclosed.then (neutral_propertiesSql clause.pairs))

/-- A plan is written as a confined statement, if its sink adds rows only. -/
theorem Plan.confined_insertSql (p : Plan) (target : InsertTarget) (hmode : p.sinkMode = .appendOnly) :
    Outcome (fun _ => True) Confined (p.insertSql .standard target) := by
  unfold insertSql
  split
  · exact trivial
  · refine (p.neutral_selectSql.mono (fun _ _ => trivial) fun _ h => h).bind fun select hselect => ?_
    have hinsert : Neutral "INSERT INTO " := rfl
    have htext := ((hinsert.append (neutral_quotedName (Name.object target.object))).append neutral_blank).append hselect
    rw [hmode]
    exact htext.confined

/-- Whatever texts a plan, a table, the settings and a layer on top of them hold: the statements that are written of them with
the functions of Flink are confined. -/
theorem Dialect.statements_confined (options : ConnectorOptions) :
    (∀ p target text, p.sinkMode = .appendOnly → insert ⟨options, .standard⟩ p target = .ok text → Confined text) ∧
      ∀ e role additional text, createTable ⟨options, .standard⟩ e role additional = .ok text → Confined text :=
  ⟨fun p target _ hmode htext => (p.confined_insertSql target hmode).value htext,
    fun e role additional _ htext => (e.confined_createSql options role additional).value htext⟩

/-- A table with names and a topic that try to end the statement. -/
def hostileTable : Entity where
  objectName := "a`;b"
  topicName := "x'); DROP TABLE y; --"
  columns := [⟨"c`)", .string, false, none, none⟩]

/-- A literal that tries to end the statement. -/
def hostilePlan : Plan where
  sourceTypes := ["Order"]
  sourceTopics := []
  joins := []
  wheres := []
  projection := none
  selection := .items [⟨"value", .literal (.string "'; `(")⟩]
  grouping := none
  having := none
  window := none
  hasGroupBy := false
  hasAggregate := false
  hasHaving := false
  sinkMode := .appendOnly

/-- The statement for the table. -/
def hostileTableSql : String :=
  "CREATE TABLE IF NOT EXISTS `a_b` (`c` STRING NOT NULL) WITH ('connector'='kafka', 'topic'='x''); DROP TABLE y; --', " ++
    "'format'='avro-confluent', 'properties.bootstrap.servers'='localhost:9092');"

/-- The statement for the plan. -/
def hostileInsertSql : String := "INSERT INTO `a_b` SELECT '''; `(' AS `value` FROM `order` AS t0;"

/-- Names and options with quotes, semicolons and comments stay in their regions, in a table and in an INSERT. -/
theorem hostile_texts_confined : Confined hostileTableSql ∧ Confined hostileInsertSql := by
  have htable : Dialect.createTable ⟨{}, .standard⟩ hostileTable .source none = .ok hostileTableSql :=
    eq_ok_of_toOption (by decide +kernel)
  have hinsert : Dialect.insert ⟨{}, .standard⟩ hostilePlan ⟨.stream, .changes, "a`;b", "t"⟩ = .ok hostileInsertSql :=
    eq_ok_of_toOption (by decide +kernel)
  exact ⟨(Dialect.statements_confined {}).2 hostileTable .source none _ htable,
    (Dialect.statements_confined {}).1 hostilePlan ⟨.stream, .changes, "a`;b", "t"⟩ _ rfl hinsert⟩

end FlinkSql
