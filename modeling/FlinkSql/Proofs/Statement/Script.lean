import FlinkSql.Function.Standard
import FlinkSql.Proofs.Statement.Creation
import FlinkSql.Proofs.Statement.Layout
import FlinkSql.Proofs.Statement.Writing
import FlinkSql.Statement.Script
import Mathlib.Data.List.Nodup

/-!
# What a script creates and reads

A script creates a table for each source and one for the sink, and its INSERT reads tables and writes one. All these names are read
from the statements. Whether the INSERT finds the tables that the script creates depends on the topics that the plan has
been given, and whether each of them is created anew on the normalized names alone.
-/

namespace FlinkSql

open Text

/-! ## Statements that create tables -/

/-- The table that a CREATE TABLE statement names. -/
def createdTable? (statement : String) : Option String := nameAfter? "CREATE TABLE IF NOT EXISTS " statement.toList

theorem createdTable?_createSql {e : Entity} {o : ConnectorOptions} {role : TableRole} {additional : Option Layer} {text : String}
    (h : e.createSql o role additional = .ok text) : createdTable? text = some (Name.object e.objectName) := by
  obtain ⟨-, clause, -, -, body, -, rfl⟩ := Entity.createSql_eq_ok_iff.mp h
  unfold createdTable? Entity.statementSql
  generalize propertiesSql clause.pairs = properties
  simp only [String.toList_append, List.append_assoc]
  exact nameAfter?_quotedObject _ _ fun hhead => absurd (Option.some.inj hhead) (by decide)

/-! ## The parts of a script -/

/-- A script, taken apart. -/
structure ScriptParts where
  /-- The statements that create the source tables. -/
  sourceTables : List String
  /-- The statement that creates the sink table. -/
  sinkTable : String
  /-- What stands above the INSERT. -/
  remark : String
  /-- The quoted table of the INSERT. -/
  target : String
  query : SelectParts

namespace ScriptParts

/-- The INSERT, without what stands above it. -/
def insert (s : ScriptParts) : String := "INSERT INTO " ++ s.target ++ " " ++ s.query.text ++ ";"

/-- The statements that create tables. -/
def creates (s : ScriptParts) : List String := s.sourceTables ++ [s.sinkTable]

/-- All statements, in order. -/
def statements (s : ScriptParts) : List String := s.creates ++ [s.remark ++ s.insert]

/-- The table that the INSERT writes. -/
def written (s : ScriptParts) : Option String := nameAfter? "INSERT INTO " s.insert.toList

/-- Each table that the INSERT reads is created by the statement at its position, and the one that it writes by the statement
for the sink. -/
structure SelfContained (s : ScriptParts) : Prop where
  read : s.query.read = s.sourceTables.map createdTable?
  written : s.written = createdTable? s.sinkTable

end ScriptParts

/-- What stands above the INSERT of a plan. -/
def Plan.remark (p : Plan) (topic : String) : String :=
  match p.sinkMode with
  | .appendOnly => ""
  | .upsert => upsertRemark topic

/-- INSERT runs the query of the plan. -/
theorem Plan.insertSql_eq_ok {functions : Registry} {p : Plan} {target : InsertTarget} {text : String}
    (h : p.insertSql functions target = .ok text) : ∃ select, p.selectSql functions = .ok select ∧
      text = p.remark target.topic ++ ("INSERT INTO " ++ Name.quotedObject target.object ++ " " ++ select ++ ";") := by
  unfold insertSql at h
  split at h
  · cases h
  · obtain ⟨select, hselect, h⟩ := bind_eq_ok.mp h
    refine ⟨select, hselect, ?_⟩
    rw [remark]
    cases hmode : p.sinkMode with
    | appendOnly =>
      rw [hmode] at h
      rw [String.empty_append]
      exact (Except.ok.inj h).symm
    | upsert =>
      rw [hmode] at h
      exact (Except.ok.inj h).symm

/-- The plan as a script runs it: without topics of its own it reads the source tables. -/
def Plan.fedBy (p : Plan) (sources : List Entity) : Plan :=
  if p.sourceTopics.isEmpty then p.withSourceTopics (sources.map (·.objectName)) else p

/-- The tables that the query of a script reads, before their names are normalized. -/
def Plan.namesOver (p : Plan) (sources : List Entity) : List String :=
  if p.sourceTopics.isEmpty then sources.map (·.objectName) else p.sourceTopics

/-- A plan with topics reads them. A plan without topics reads the source tables, and without tables it has nothing to read. -/
theorem Plan.tableNames_fedBy {p : Plan} {sources : List Entity} (h : sources.length = p.sourceTypes.length) :
    (p.fedBy sources).tableNames = p.namesOver sources := by
  unfold fedBy namesOver
  by_cases htopics : p.sourceTopics.isEmpty
  · rw [if_pos htopics, if_pos htopics, tableNames, withSourceTopics]
    cases sources with
    | nil => exact List.eq_nil_of_length_eq_zero h.symm
    | cons e rest => rfl
  · rw [if_neg htopics, if_neg htopics, tableNames, if_neg htopics]

/-- The parts of the script that deploys a plan. -/
structure Dialect.HasScript (d : Dialect) (p : Plan) (sources : List Entity) (sink : Entity) (s : ScriptParts) : Prop where
  sourceTables : sources.mapM (fun source => d.createTable source .source none) = .ok s.sourceTables
  sinkTable : d.createTable sink .sink none = .ok s.sinkTable
  remark : s.remark = (p.fedBy sources).remark sink.topicName
  target : s.target = Name.quotedObject sink.objectName
  query : (p.fedBy sources).HasParts d.functions s.query

namespace Dialect

variable {d : Dialect} {p : Plan} {sources : List Entity} {sink : Entity} {kind : StatementKind} {mode : OutputMode}
  {statements : List String}

/-- A script that is written is written as its parts, for a legal plan. -/
theorem script_parts (h : d.script p sources sink kind mode = .ok statements) :
    ∃ s, d.HasScript p sources sink s ∧ statements = s.statements ∧ (p.fedBy sources).Legal ∧
      sources.length = p.sourceTypes.length := by
  unfold script at h
  split at h
  · cases h
  · rename_i hlength
    obtain ⟨tables, htables, h⟩ := bind_eq_ok.mp h
    obtain ⟨sinkTable, hsink, h⟩ := bind_eq_ok.mp h
    obtain ⟨insert, hinsert, h⟩ := bind_eq_ok.mp h
    cases h
    have hinsert : (p.fedBy sources).insertSql d.functions ⟨kind, mode, sink.objectName, sink.topicName⟩ = .ok insert := hinsert
    obtain ⟨select, hselect, rfl⟩ := Plan.insertSql_eq_ok hinsert
    obtain ⟨query, hquery, rfl⟩ := Plan.selectSql_parts hselect
    refine ⟨⟨tables, sinkTable, (p.fedBy sources).remark sink.topicName, Name.quotedObject sink.objectName, query⟩,
      ⟨htables, hsink, rfl, rfl, hquery⟩, ?_, Plan.legal_of_selectSql hselect, not_not.mp hlength⟩
    rw [ScriptParts.statements, ScriptParts.creates, List.append_assoc, List.singleton_append]
    rfl

namespace HasScript

variable {s : ScriptParts}

theorem sourceTables_eq (h : d.HasScript p sources sink s) :
    s.sourceTables.map createdTable? = sources.map fun e => some (Name.object e.objectName) :=
  map_eq_of_mapM_eq_ok (fun _ _ hcreate => createdTable?_createSql hcreate) h.sourceTables

/-- The script creates the tables of the sources and that of the sink, under their normalized names. -/
theorem created_eq (h : d.HasScript p sources sink s) :
    s.creates.map createdTable? = (sources ++ [sink]).map fun e => some (Name.object e.objectName) := by
  rw [ScriptParts.creates, List.map_append, List.map_append, h.sourceTables_eq, List.map_singleton, List.map_singleton,
    createdTable?_createSql h.sinkTable]

theorem written_eq (h : d.HasScript p sources sink s) : s.written = some (Name.object sink.objectName) := by
  have hinsert : s.insert.toList = "INSERT INTO ".toList ++ ((Name.quotedObject sink.objectName).toList ++
      (" ".toList ++ (s.query.text.toList ++ ";".toList))) := by
    unfold ScriptParts.insert
    rw [h.target]
    simp only [String.toList_append, List.append_assoc]
  unfold ScriptParts.written
  rw [hinsert]
  exact nameAfter?_quotedObject _ _ fun hhead => absurd (Option.some.inj hhead) (by decide)

/-- The query reads the tables of the plan, under their normalized names. -/
theorem read_eq (h : d.HasScript p sources sink s) (hlegal : (p.fedBy sources).Legal)
    (hlength : sources.length = p.sourceTypes.length) :
    s.query.read = (p.namesOver sources).map fun name => some (Name.object name) := by
  rw [h.query.read_eq hlegal, Plan.tableNames_fedBy hlength]

/-- A script is self-contained when the names that its query reads are, once normalized, those of the sources. -/
theorem selfContained_iff (h : d.HasScript p sources sink s) (hlegal : (p.fedBy sources).Legal)
    (hlength : sources.length = p.sourceTypes.length) :
    s.SelfContained ↔ (p.namesOver sources).map Name.object = sources.map fun e => Name.object e.objectName := by
  have hwritten : s.written = createdTable? s.sinkTable := h.written_eq.trans (createdTable?_createSql h.sinkTable).symm
  have hinj : Function.Injective (List.map (some : String → Option String)) :=
    List.map_injective_iff.mpr fun _ _ => Option.some.inj
  have hsome : s.query.read = s.sourceTables.map createdTable? ↔
      (p.namesOver sources).map Name.object = sources.map fun e => Name.object e.objectName := by
    have hread : (p.namesOver sources).map (fun name => some (Name.object name)) = ((p.namesOver sources).map Name.object).map some :=
      List.map_map.symm
    have hcreated : sources.map (fun e => some (Name.object e.objectName)) =
        (sources.map fun e => Name.object e.objectName).map some := List.map_map.symm
    rw [h.read_eq hlegal hlength, h.sourceTables_eq, hread, hcreated, hinj.eq_iff]
  exact ⟨fun hself => hsome.mp hself.read, fun hnames => ⟨hsome.mpr hnames, hwritten⟩⟩

end HasScript

/-! ## Reading what has been created -/

/-- The statements of a script create the tables of the sources in order and then that of the sink, which the INSERT writes. The
INSERT reads the tables of the sources, each at its position, if the plan has no topics of its own. Otherwise it reads the topics,
and the script is self-contained exactly when each of them has the normalized name of its source. -/
theorem script_reads_created_tables (h : d.script p sources sink kind mode = .ok statements) :
    ∃ s : ScriptParts, d.HasScript p sources sink s ∧ statements = s.statements ∧
      s.creates.map createdTable? = (sources ++ [sink]).map (fun e => some (Name.object e.objectName)) ∧
      s.written = createdTable? s.sinkTable ∧
      (p.sourceTopics = [] → s.SelfContained) ∧
      (p.sourceTopics ≠ [] → s.query.read = p.sourceTopics.map (fun topic => some (Name.object topic)) ∧
        (s.SelfContained ↔ p.sourceTopics.map Name.object = sources.map fun e => Name.object e.objectName)) := by
  obtain ⟨s, hs, hstatements, hlegal, hlength⟩ := script_parts h
  have hread := hs.read_eq hlegal hlength
  have hself := hs.selfContained_iff hlegal hlength
  refine ⟨s, hs, hstatements, hs.created_eq, hs.written_eq.trans (createdTable?_createSql hs.sinkTable).symm, ?_, ?_⟩
  · intro htopics
    rw [hself, Plan.namesOver, htopics, List.isEmpty_nil, if_pos rfl, List.map_map]
    rfl
  · intro htopics
    rw [Plan.namesOver, if_neg (mt List.isEmpty_iff.mp htopics)] at hread hself
    exact ⟨hread, hself⟩

/-- Orders in a table that is not named after its topic. -/
def ordersTable : Entity where
  objectName := "orders_table"
  topicName := "orders"
  columns := [⟨"Amount", .string, false, none, none⟩]

/-- A table for a copy of the orders. -/
def copyTable : Entity := { ordersTable with objectName := "Orders Copy", topicName := "orders-copy" }

/-- The query that copies orders. -/
def copyPlan : Plan where
  sourceTypes := ["Order"]
  sourceTopics := []
  joins := []
  wheres := []
  projection := none
  selection := .wildcard none
  grouping := none
  having := none
  window := none
  hasGroupBy := false
  hasAggregate := false
  hasHaving := false
  sinkMode := .appendOnly

/-- The copy is written, be it by the name of the table or by the topic of the orders. -/
theorem copyPlan_is_written (topics : List String) (h : topics ∈ [[], ["orders"]]) :
    ∃ statements, script ⟨{}, .standard⟩ (copyPlan.withSourceTopics topics) [ordersTable] copyTable .stream .changes =
      .ok statements := by
  have hwritten : ∀ topics ∈ [[], ["orders"]], (script ⟨{}, .standard⟩ (copyPlan.withSourceTopics topics) [ordersTable] copyTable
      .stream .changes).toOption.isSome := by decide
  obtain ⟨statements, hstatements⟩ := Option.isSome_iff_exists.mp (hwritten topics h)
  exact ⟨statements, eq_ok_of_toOption hstatements⟩

/-- The names of the tables that are created. -/
theorem copyPlan_names : ([ordersTable] ++ [copyTable]).map (fun e => some (Name.object e.objectName)) =
    [some "orders_table", some "orders_copy"] := by
  decide

/-- Without topics of its own the query reads the table that is created. -/
theorem copyPlan_reads_created_table : ∃ s : ScriptParts,
    script ⟨{}, .standard⟩ copyPlan [ordersTable] copyTable .stream .changes = .ok s.statements ∧
      s.creates.map createdTable? = [some "orders_table", some "orders_copy"] ∧ s.SelfContained := by
  obtain ⟨statements, h⟩ := copyPlan_is_written [] List.mem_cons_self
  obtain ⟨s, -, rfl, hcreated, -, hself, -⟩ := script_reads_created_tables h
  exact ⟨s, h, hcreated.trans copyPlan_names, hself rfl⟩

/-- With the topic given to the plan, the query reads a table that is not created: that of the orders has another name. -/
theorem copyPlan_reads_topic : ∃ s : ScriptParts,
    script ⟨{}, .standard⟩ (copyPlan.withSourceTopics ["orders"]) [ordersTable] copyTable .stream .changes = .ok s.statements ∧
      HasScript ⟨{}, .standard⟩ (copyPlan.withSourceTopics ["orders"]) [ordersTable] copyTable s ∧
      s.creates.map createdTable? = [some "orders_table", some "orders_copy"] ∧ s.query.read = [some "orders"] ∧
      ¬s.SelfContained := by
  obtain ⟨statements, h⟩ := copyPlan_is_written ["orders"] (List.mem_cons_of_mem _ List.mem_cons_self)
  obtain ⟨s, hs, rfl, hlegal, hlength⟩ := script_parts h
  have hread : s.query.read = [some (Name.object "orders")] := hs.read_eq hlegal hlength
  have htopic : Name.object "orders" = "orders" := by decide
  have htable : Name.object "orders_table" = "orders_table" := by decide
  refine ⟨s, h, hs, hs.created_eq.trans copyPlan_names, by rw [hread, htopic], fun hself => ?_⟩
  have hnames : [Name.object "orders"] = [Name.object "orders_table"] := (hs.selfContained_iff hlegal hlength).mp hself
  rw [htopic, htable] at hnames
  exact absurd hnames (by decide)

end Dialect

end FlinkSql
