import FlinkSql.Proofs.Statement.Clauses
import FlinkSql.Proofs.Statement.Having

/-!
# Sources by position

A statement brings in one table a source, in order, under the aliases `t0`, `t1` and so on, and every column of a source is
written behind the alias of its row type. `Plan.SourcesByPosition` puts the clauses together with what is known of columns, for all
expressions of a plan and for its condition on groups: each column stands in the text of the statement behind that alias, and the
text refers to nothing else.
-/

namespace FlinkSql

open Text

/-! ## The condition on groups -/

namespace Having

variable {items : List Item}

/-- What is inlined is the expression of an item. -/
theorem item_of_inlined? {e replacement : Expr} (h : inlined? items e = some replacement) :
    ∃ item ∈ items, replacement = item.expr := by
  unfold inlined? at h
  split at h
  · split at h
    · obtain ⟨item, hitem, rfl⟩ := Option.map_eq_some_iff.mp h
      exact ⟨item, (itemNamed?_eq_some hitem).1, rfl⟩
    · cases h
  · split at h
    · have hscalar := scalar?_eq_some_iff.mp h
      exact ⟨⟨Selection.scalarLabel, replacement⟩, by rw [hscalar]; exact List.mem_cons_self, rfl⟩
    · cases h
  · cases h

/-- What the condition on groups may refer to: columns of sources, its own or those of the items that are inlined, by position; and
columns of the output row by the first alias, where the projection names no items. -/
inductive Refers (p : Plan) (condition : Expr) (r : Reference) : Prop
  | source (h : Expr.RefersByPosition p.sourceTypes (condition.nodes ++ p.selection.itemList.flatMap (·.expr.nodes)) r)
  | output (hitems : p.selection.itemList = []) (q : Param) (name : String) (hcolumn : .column q name ∈ condition.nodes)
      (hq : q.isOutput = true) (h : r = ⟨tableAlias 0 ++ ".", Name.column name⟩)

variable {functions : Registry} {p : Plan} {condition : Expr} {text : String}

/-- Where the projection names no items, the condition is written as it stands, with the first alias for the output row. -/
theorem sql_of_no_items (hitems : p.selection.itemList = []) :
    sql functions p condition = condition.sql functions { p.aliases with output := some (tableAlias 0) } := by
  rw [sql, hitems]
  rfl

/-- Where the condition on groups is written, its source columns go by position. -/
theorem columnsByPosition (h : sql functions p condition = .ok text) :
    condition.ColumnsByPosition functions p.sourceTypes := by
  by_cases hitems : p.selection.itemList = []
  · rw [sql_of_no_items hitems] at h
    exact Expr.columnsByPosition_of_written h
  · obtain ⟨-, h⟩ := (sql_eq_ok_iff hitems).mp h
    intro q name row hcolumn hrow
    -- a source column is left where it is
    have hsource : q.isOutput = false := by rw [Param.isOutput, hrow]; rfl
    have hnone : inlined? p.selection.itemList (.column q name) = none := inlined?_eq_none hsource
    have hmem := Expr.mem_nodes_rewrite (fun _ _ => reference_of_inlined?) rfl hnone hcolumn
    exact Expr.columnsByPosition_of_written h q name row hmem hrow

/-- The nodes of a condition on groups, and those of the expressions that are inlined for them. -/
def asked (items : List Item) (condition : Expr) : List Expr :=
  condition.nodes ++ (condition.nodes.filterMap (inlined? items)).flatMap Expr.nodes

/-- What is asked of a condition is there after the inlining, if it is a column of a source. -/
theorem column_of_mem_asked {q : Param} {name : String} (h : .column q name ∈ asked items condition) (hq : q.isOutput = false) :
    .column q name ∈ (condition.rewrite (inlined? items)).nodes := by
  rcases List.mem_append.mp h with hown | hinlined
  · exact Expr.mem_nodes_rewrite (fun _ _ => reference_of_inlined?) rfl (inlined?_eq_none hq) hown
  · obtain ⟨replacement, hreplacement, hmem⟩ := List.mem_flatMap.mp hinlined
    obtain ⟨n, hn, hanswer⟩ := List.mem_filterMap.mp hreplacement
    have hanswers : ∀ e replacement, inlined? items e = some replacement → e.param?.isSome := fun _ _ => reference_of_inlined?
    have hsubset := Expr.nodes_rewrite_subset hanswers hn
    rw [Expr.rewrite_of_some hanswer] at hsubset
    exact hsubset hmem

/-- Where no items are projected, nothing is inlined. -/
theorem asked_nil (condition : Expr) : asked [] condition = condition.nodes := by
  have hnone : condition.nodes.filterMap (inlined? []) = [] := by
    refine List.filterMap_eq_nil_iff.mpr fun n _ => ?_
    rw [Option.eq_none_iff_forall_not_mem]
    intro replacement hanswer
    obtain ⟨item, hitem, -⟩ := item_of_inlined? hanswer
    cases hitem
  rw [asked, hnone, List.flatMap_nil, List.append_nil]

/-- With the functions of Flink the condition on groups exposes its source columns, and those of the items that are inlined. -/
theorem columnsExposed (hcondition : condition.IsShaped) (hshaped : ∀ item ∈ p.selection.itemList, item.expr.IsShaped)
    (h : sql .standard p condition = .ok text) :
    Expr.ColumnsExposed p.sourceTypes (asked p.selection.itemList condition) text := by
  by_cases hitems : p.selection.itemList = []
  · rw [sql_of_no_items hitems] at h
    have hneutral : ∀ output ∈ (some (tableAlias 0) : Option String), Neutral output := by
      rintro _ ⟨⟩
      exact neutral_tableAlias 0
    rw [hitems, asked_nil]
    exact Expr.columnsExposed_sql hcondition hneutral h
  · obtain ⟨-, h⟩ := (sql_eq_ok_iff hitems).mp h
    have hrewritten : (condition.rewrite (inlined? p.selection.itemList)).IsShaped := by
      refine hcondition.rewrite fun n _ replacement hanswer => ?_
      obtain ⟨item, hitem, rfl⟩ := item_of_inlined? hanswer
      exact hshaped item hitem
    intro q name row hcolumn hrow
    have hsource : q.isOutput = false := by rw [Param.isOutput, hrow]; rfl
    exact Expr.columnsExposed_sql hrewritten p.neutral_output h q name row (column_of_mem_asked hcolumn hsource) hrow

/-- Where the condition on groups is written with the functions of Flink, this is what it refers to. -/
theorem refers_of_sql (h : sql .standard p condition = .ok text) : ∀ r ∈ references text, Refers p condition r := by
  intro r hr
  by_cases hitems : p.selection.itemList = []
  · rw [sql_of_no_items hitems] at h
    have hlead : ∀ output ∈ (some (tableAlias 0) : Option String), ∀ c ∈ output.toList, isLead c = true := by
      rintro _ ⟨⟩ c hc
      exact isLead_of_mem_tableAlias hc
    obtain ⟨q, name, source, hcolumn, hsource, rfl⟩ := Expr.references_sql hlead h r hr
    cases hrow : q.row with
    | some row =>
      obtain ⟨i, hi, rfl⟩ := (Aliases.resolve_eq_ok_iff hrow).mp hsource
      exact .source ⟨q, name, row, i, List.mem_append_left _ hcolumn, hrow, hi, rfl⟩
    | none =>
      rw [Aliases.resolve, hrow] at hsource
      cases hsource
      exact .output hitems q name hcolumn (by rw [Param.isOutput, hrow]; rfl) rfl
  · obtain ⟨-, h⟩ := (sql_eq_ok_iff hitems).mp h
    obtain ⟨q, name, row, i, hcolumn, hrow, hi, rfl⟩ := (Expr.byPosition_of_written h).references rfl r hr
    refine .source ⟨q, name, row, i, List.mem_append.mpr ?_, hrow, hi, rfl⟩
    rcases Expr.column_of_mem_rewrite hcolumn with hown | ⟨n, -, replacement, hanswer, hmem⟩
    · exact Or.inl hown
    · obtain ⟨item, hitem, rfl⟩ := item_of_inlined? hanswer
      exact Or.inr (List.mem_flatMap.mpr ⟨item, hitem, hmem⟩)

end Having

namespace Plan

/-! ## All of a statement -/

/-- The parts of a statement in which sources go by position. -/
structure SourcesByPosition (functions : Registry) (p : Plan) (s : SelectParts) : Prop where
  /-- Each source has its table, and each but the first its join. -/
  tables : p.tableNames.length = p.sourceTypes.length
  joins : p.joins.length + 1 = p.sourceTypes.length
  /-- Each source has its clause, with the alias of its position. -/
  clauses : s.tables.length = p.sourceTypes.length
  introduces : ∀ i clause, s.tables[i]? = some clause → p.Introduces functions i clause
  /-- Read from the text of the clauses, the tables are those of the plan, also where the first one is cut into windows. -/
  read : s.read = p.tableNames.map fun name => some (Name.object name)
  /-- In the projection, in joins, conditions and grouping keys. -/
  expressions : ∀ e ∈ p.expressions, ∃ sql, e.sql functions p.aliases = .ok sql ∧ e.ByPosition functions p.sourceTypes sql
  having : ∀ condition, p.having = some condition → ∃ sql, Having.sql functions p condition = .ok sql ∧
    condition.ColumnsByPosition functions p.sourceTypes ∧ (functions = .standard → ∀ r ∈ references sql, Having.Refers p condition r)
  /-- With the functions of Flink, each column of a source stands in the text of the statement. -/
  exposed : functions = .standard → ∀ e ∈ p.expressions, e.IsShaped → Expr.ColumnsExposed p.sourceTypes e.nodes s.text
  /-- So does each one that the condition on groups asks for, by itself or through an item. -/
  exposedHaving : functions = .standard → ∀ condition, p.having = some condition → condition.IsShaped →
    (∀ item ∈ p.selection.itemList, item.expr.IsShaped) →
    Expr.ColumnsExposed p.sourceTypes (Having.asked p.selection.itemList condition) s.text

/-- Where a plan has a condition on groups, that is written behind HAVING. -/
theorem HasParts.having_written {functions : Registry} {p : Plan} {s : SelectParts} (h : p.HasParts functions s) {condition : Expr}
    (hcondition : p.having = some condition) : ∃ sql, Having.sql functions p condition = .ok sql ∧ Exposes sql s.having := by
  have hhaving := h.having
  rw [havingSql, hcondition] at hhaving
  obtain ⟨sql, hsql, hclause⟩ := bind_eq_ok.mp hhaving
  have hword : Closed " HAVING " := rfl
  rw [← Except.ok.inj hclause]
  exact ⟨sql, hsql, hword.exposes sql⟩

/-- Where a legal plan is written, its sources go by position. -/
theorem HasParts.sourcesByPosition {functions : Registry} {p : Plan} {s : SelectParts} (h : p.HasParts functions s)
    (hp : p.Legal) : p.SourcesByPosition functions s where
  tables := hp.length_tableNames_eq
  joins := hp.length_joins
  clauses := (h.introduces hp).1.trans hp.length_tableNames_eq
  introduces := (h.introduces hp).2
  read := h.read_eq hp
  expressions e he := by
    obtain ⟨sql, hsql, -⟩ := h.written hp he
    exact ⟨sql, hsql, Expr.byPosition_of_written hsql⟩
  having condition hcondition := by
    obtain ⟨sql, hsql, -⟩ := h.having_written hcondition
    refine ⟨sql, hsql, Having.columnsByPosition hsql, ?_⟩
    rintro rfl
    exact Having.refers_of_sql hsql
  exposed := by
    rintro rfl e he hshaped
    obtain ⟨sql, hsql, hexposes⟩ := h.written hp he
    exact (Expr.columnsExposed_sql hshaped p.neutral_output hsql).trans (hexposes rfl)
  exposedHaving := by
    rintro rfl condition hcondition hshaped hitems
    obtain ⟨sql, hsql, hexposes⟩ := h.having_written hcondition
    exact (Having.columnsExposed hshaped hitems hsql).trans (hexposes.trans (h.isClosed hp).exposes_having)

/-- A plan without sources breaks the first rule, before anything is counted. -/
theorem fault?_of_no_source {p : Plan} (h : p.sourceTypes = []) : p.fault? = some (.constraint .noSource) := by
  unfold fault?
  rw [h]
  rfl

/-- Sources go by position. A plan that is written has the aliases `t0`, `t1` and so on, one a source and in the order of the
sources, each in the clause of its table: the topic at that position, or the row type if there are no topics. The tables that are
read from the text of the clauses are these, in order. Wherever a column of a source stands in the projection, in joins, conditions,
grouping keys or the condition on groups, and whatever its parameter is called, it is written behind the alias of the last position
of its row type, and so it stands in the text of the statement, outside quoted regions; different row types have different aliases.
A plan without sources is refused before its joins are counted. -/
theorem sources_go_by_position (functions : Registry) (p : Plan) :
    (p.sourceTypes = [] → p.selectSql functions = .error (.constraint .noSource)) ∧
      ∀ text, p.selectSql functions = .ok text → ∃ s, p.HasParts functions s ∧ text = s.text ∧
        p.SourcesByPosition functions s ∧
        ∀ row other i j, IsLast row p.sourceTypes i → IsLast other p.sourceTypes j → row ≠ other → tableAlias i ≠ tableAlias j := by
  refine ⟨fun hnone => selectSql_of_fault (fault?_of_no_source hnone) functions, fun text htext => ?_⟩
  have hlegal := legal_of_selectSql htext
  obtain ⟨s, hparts, rfl⟩ := selectSql_parts htext
  refine ⟨s, hparts, rfl, hparts.sourcesByPosition hlegal, ?_⟩
  intro row other i j hi hj hne halias
  cases tableAlias_injective halias
  exact hne (Option.some.inj (hi.1.symm.trans hj.1))

/-- Orders joined with other row types, all columns. -/
def ordersJoined (others : List String) (conditions : List Expr) : Plan where
  sourceTypes := "Order" :: others
  sourceTopics := []
  joins := conditions.map .ofExpr
  wheres := []
  projection := none
  selection := .wildcard none
  grouping := none
  having := none
  window := none
  hasGroupBy := false
  hasAggregate := false
  hasHaving := false
  sinkMode := .appendOnly

/-- Rows of two types that have the same key. -/
def sameKey (row other : String) : Expr := .binary .eq (.column ⟨"a", some row⟩ "Key") (.column ⟨"b", some other⟩ "Key")

/-- Orders with their customers: the customers are the second source, and go by the second alias. -/
theorem customers_go_by_position :
    (∃ s : SelectParts, s.text = "SELECT * FROM `order` AS t0 JOIN `customer` AS t1 ON (t0.`key` = t1.`key`)" ∧
      (ordersJoined ["Customer"] [sameKey "Order" "Customer"]).SourcesByPosition .standard s ∧ tableAlias 0 ≠ tableAlias 1) ∧
      (ordersJoined [] []).sourceTypes ≠ [] ∧
      { ordersJoined [] [] with sourceTypes := [] }.selectSql .standard = .error (.constraint .noSource) := by
  have htext : (ordersJoined ["Customer"] [sameKey "Order" "Customer"]).selectSql .standard =
      .ok "SELECT * FROM `order` AS t0 JOIN `customer` AS t1 ON (t0.`key` = t1.`key`)" := eq_ok_of_toOption (by decide +kernel)
  have hnodup : (ordersJoined ["Customer"] [sameKey "Order" "Customer"]).sourceTypes.Nodup := by decide
  obtain ⟨s, -, hs, hposition, haliases⟩ := (sources_go_by_position .standard _).2 _ htext
  refine ⟨⟨s, hs.symm, hposition, ?_⟩, List.cons_ne_nil _ _, (sources_go_by_position .standard _).1 rfl⟩
  exact haliases "Order" "Customer" 0 1 (isLast_of_nodup hnodup rfl) (isLast_of_nodup hnodup rfl) (by decide)

end Plan

end FlinkSql
