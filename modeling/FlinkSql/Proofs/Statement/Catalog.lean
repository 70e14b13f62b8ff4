import FlinkSql.Proofs.Statement.Script

/-!
# Which definitions take effect

CREATE TABLE IF NOT EXISTS is skipped without a word when its name is taken. A script does not compare the names of its tables,
and normalization makes many names one; so all its definitions take effect exactly when the normalized names are pairwise distinct.
-/

namespace FlinkSql

/-- Tables by name, each with the statement that defined it, in the order of their creation. -/
abbrev Catalog := List (String × String)

namespace Catalog

/-- The names that are taken. -/
def names (c : Catalog) : List String := c.map (·.1)

/-- The statements that have taken effect. -/
def definitions (c : Catalog) : List String := c.map (·.2)

/-- Executes a CREATE TABLE IF NOT EXISTS. -/
def create (c : Catalog) (statement : String) : Catalog :=
  match createdTable? statement with
  | none => c
  | some name => if name ∈ c.names then c else c ++ [(name, statement)]

/-- Executes statements in order. -/
def createAll (c : Catalog) (statements : List String) : Catalog := statements.foldl create c

/-- A table whose name is taken is not created again. -/
theorem create_of_mem {c : Catalog} {statement name : String} (h : createdTable? statement = some name) (hname : name ∈ c.names) :
    c.create statement = c := by
  rw [create, h]
  exact if_pos hname

/-- A table with a new name is added at the end. -/
theorem create_of_not_mem {c : Catalog} {statement name : String} (h : createdTable? statement = some name)
    (hname : name ∉ c.names) : c.create statement = c ++ [(name, statement)] := by
  rw [create, h]
  exact if_neg hname

/-- A statement adds one definition at most. -/
theorem length_create_le (c : Catalog) (statement : String) : (c.create statement).length ≤ c.length + 1 := by
  unfold create
  split
  · omega
  · split
    · omega
    · rw [List.length_append, List.length_singleton]

/-- There are not more tables than statements. -/
theorem length_createAll_le (c : Catalog) (statements : List String) :
    (c.createAll statements).length ≤ c.length + statements.length := by
  induction statements generalizing c with
  | nil => exact Nat.le_refl _
  | cons statement rest ih =>
    have hstep := c.length_create_le statement
    have hrest := ih (c.create statement)
    rw [createAll, List.foldl_cons, List.length_cons]
    rw [createAll] at hrest
    omega

/-- All statements take effect when their names are pairwise distinct and none is taken, and only then: a statement that is
skipped leaves one definition less than there are statements. -/
theorem definitions_createAll_iff {c : Catalog} {statements names : List String}
    (h : statements.map createdTable? = names.map some) :
    (c.createAll statements).definitions = c.definitions ++ statements ↔ names.Nodup ∧ ∀ name ∈ names, name ∉ c.names := by
  induction statements generalizing c names with
  | nil =>
    obtain rfl := List.map_eq_nil_iff.mp h.symm
    rw [List.append_nil]
    exact ⟨fun _ => ⟨List.nodup_nil, fun _ hname => absurd hname List.not_mem_nil⟩, fun _ => rfl⟩
  | cons statement rest ih =>
    cases names with
    | nil => cases h
    | cons name others =>
      obtain ⟨hname, hothers⟩ := List.cons.inj h
      have hrun : c.createAll (statement :: rest) = (c.create statement).createAll rest := rfl
      rw [hrun, List.nodup_cons, List.forall_mem_cons]
      by_cases htaken : name ∈ c.names
      · rw [create_of_mem hname htaken]
        refine ⟨fun hall => ?_, fun ⟨_, hfree, _⟩ => absurd htaken hfree⟩
        have hlength := congrArg List.length hall
        have hle := c.length_createAll_le rest
        simp only [definitions, List.length_append, List.length_map, List.length_cons] at hlength
        omega
      · have hnames : (c ++ [(name, statement)]).names = c.names ++ [name] := List.map_append
        have hdefinitions : c.definitions ++ statement :: rest = (c ++ [(name, statement)]).definitions ++ rest := by
          rw [definitions, definitions, List.map_append, List.append_assoc]
          rfl
        rw [create_of_not_mem hname htaken, hdefinitions, ih hothers, hnames]
        simp only [List.mem_append, List.mem_singleton, not_or]
        constructor
        · rintro ⟨hnodup, hfree⟩
          exact ⟨⟨fun hmem => (hfree name hmem).2 rfl, hnodup⟩, htaken, fun other hmem => (hfree other hmem).1⟩
        · rintro ⟨⟨hnew, hnodup⟩, -, hfree⟩
          refine ⟨hnodup, fun other hmem => ⟨hfree other hmem, ?_⟩⟩
          rintro rfl
          exact hnew hmem

end Catalog

namespace Dialect

variable {d : Dialect} {p : Plan} {sources : List Entity} {sink : Entity} {kind : StatementKind} {mode : OutputMode}
  {statements : List String}

/-- The names of the tables that a script creates. -/
def createdNames (sources : List Entity) (sink : Entity) : List String :=
  (sources ++ [sink]).map fun e => Name.object e.objectName

namespace HasScript

variable {s : ScriptParts}

/-- The statements of a script create the tables that are named in it. -/
theorem map_createdTable? (h : d.HasScript p sources sink s) :
    s.creates.map createdTable? = (createdNames sources sink).map some := by
  rw [h.created_eq, createdNames, List.map_map]
  rfl

/-- No definition of a script is skipped when no two of its names are the same, and only then. -/
theorem definitions_iff (h : d.HasScript p sources sink s) :
    (Catalog.createAll [] s.creates).definitions = s.creates ↔ (createdNames sources sink).Nodup :=
  (Catalog.definitions_createAll_iff h.map_createdTable?).trans (and_iff_left fun _ _ => List.not_mem_nil)

/-- The query reads the table that it writes exactly if the sink has the name of a source. -/
theorem written_mem_read_iff (h : d.HasScript p sources sink s) (hlegal : (p.fedBy sources).Legal)
    (hlength : sources.length = p.sourceTypes.length) :
    s.written ∈ s.query.read ↔ Name.object sink.objectName ∈ (p.namesOver sources).map Name.object := by
  rw [h.written_eq, h.read_eq hlegal hlength, List.mem_map, List.mem_map]
  exact exists_congr fun name => and_congr_right fun _ => Option.some_inj

end HasScript

/-- A script creates its tables under their normalized names, and does not compare them. None of its definitions is skipped
exactly when the names are pairwise distinct. The query inserts into a table that it reads exactly when the normalized name of the
sink is among those that it reads; so it does not if it has no topics of its own and the names are distinct. -/
theorem script_defines_all_iff (h : d.script p sources sink kind mode = .ok statements) :
    ∃ s : ScriptParts, d.HasScript p sources sink s ∧ statements = s.statements ∧
      s.creates.map createdTable? = (createdNames sources sink).map some ∧
      ((Catalog.createAll [] s.creates).definitions = s.creates ↔ (createdNames sources sink).Nodup) ∧
      (s.written ∈ s.query.read ↔ Name.object sink.objectName ∈ (p.namesOver sources).map Name.object) ∧
      (p.sourceTopics = [] → (createdNames sources sink).Nodup → s.written ∉ s.query.read) := by
  obtain ⟨s, hs, hstatements, hlegal, hlength⟩ := script_parts h
  have hread := hs.written_mem_read_iff hlegal hlength
  refine ⟨s, hs, hstatements, hs.map_createdTable?, hs.definitions_iff, hread, fun htopics hnodup hmem => ?_⟩
  have hsource := hread.mp hmem
  rw [Plan.namesOver, htopics, List.isEmpty_nil, if_pos rfl, List.map_map] at hsource
  rw [createdNames, List.map_append] at hnodup
  exact (List.nodup_append.mp hnodup).2.2 _ hsource _ List.mem_cons_self rfl

/-- The orders and their copy have different names, so both tables are defined. -/
theorem copyPlan_defines_both : ∃ s : ScriptParts,
    script ⟨{}, .standard⟩ copyPlan [ordersTable] copyTable .stream .changes = .ok s.statements ∧
      (Catalog.createAll [] s.creates).definitions = s.creates ∧ s.written ∉ s.query.read := by
  obtain ⟨statements, h⟩ := copyPlan_is_written [] List.mem_cons_self
  have hnodup : (createdNames [ordersTable] copyTable).Nodup := by decide
  obtain ⟨s, -, rfl, -, hall, -, hother⟩ := script_defines_all_iff h
  exact ⟨s, h, hall.mpr hnodup, hother rfl hnodup⟩

/-- A copy that is named as the orders are, but for case and blanks: its definition is skipped, and the query feeds the table of
the orders to itself. -/
theorem copyPlan_feeds_itself : ∃ s : ScriptParts,
    script ⟨{}, .standard⟩ copyPlan [ordersTable] { copyTable with objectName := "Orders Table" } .stream .changes =
        .ok s.statements ∧
      s.creates.map createdTable? = [some "orders_table", some "orders_table"] ∧
      ¬(createdNames [ordersTable] { copyTable with objectName := "Orders Table" }).Nodup ∧
      (Catalog.createAll [] s.creates).definitions ≠ s.creates ∧ s.written ∈ s.query.read := by
  have hscript : (script ⟨{}, .standard⟩ copyPlan [ordersTable] { copyTable with objectName := "Orders Table" } .stream
      .changes).toOption.isSome := by decide
  obtain ⟨statements, hstatements⟩ := Option.isSome_iff_exists.mp hscript
  have h := eq_ok_of_toOption hstatements
  have hnames : createdNames [ordersTable] { copyTable with objectName := "Orders Table" } = ["orders_table", "orders_table"] := by
    decide
  have hrepeated : ¬(createdNames [ordersTable] { copyTable with objectName := "Orders Table" }).Nodup := by
    rw [hnames]
    decide
  have hsink : Name.object "Orders Table" ∈ (copyPlan.namesOver [ordersTable]).map Name.object := by decide
  obtain ⟨s, hs, rfl, hlegal, hlength⟩ := script_parts h
  exact ⟨s, h, hs.map_createdTable?.trans (congrArg (List.map some) hnames), hrepeated, mt hs.definitions_iff.mp hrepeated,
    (hs.written_mem_read_iff hlegal hlength).mpr hsink⟩

end Dialect

end FlinkSql
