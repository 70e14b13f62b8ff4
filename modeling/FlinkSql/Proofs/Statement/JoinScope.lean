import FlinkSql.Proofs.Statement.Positional

/-!
# What the conditions of joins range over

The condition of a join is written like every other expression: its columns go by position among all sources of the query, also
those that are joined later. Whether it keeps to the tables that have been joined up to there is not checked, and a legal plan stays
legal when its joins get other conditions.
-/

namespace FlinkSql

open Text

namespace Plan

variable {functions : Registry} {p : Plan}

/-- The row types whose columns stand in the expression have their last position at `last` or before. -/
def InScope (sources : List String) (last : Nat) (e : Expr) : Prop :=
  ∀ q name row i, .column q name ∈ e.nodes → q.row = some row → IsLast row sources i → i ≤ last

/-- A condition in scope refers to no table behind its own. -/
theorem lead_of_inScope {sources : List String} {last : Nat} {e : Expr} (h : InScope sources last e) {r : Reference}
    (hr : Expr.RefersByPosition sources e.nodes r) : ∃ i ≤ last, r.lead = tableAlias i ++ "." := by
  obtain ⟨q, name, row, i, hcolumn, hrow, hi, rfl⟩ := hr
  exact ⟨i, h q name row i hcolumn hrow hi, rfl⟩

/-- A condition that is not in scope has a column behind an alias of a later table. -/
theorem later_of_not_inScope {sources : List String} {last : Nat} {e : Expr} (h : ¬InScope sources last e)
    (hcolumns : e.ColumnsByPosition functions sources) :
    ∃ q name i, .column q name ∈ e.nodes ∧ last < i ∧
      (Expr.column q name).sql functions ⟨sources, none⟩ = .ok (tableAlias i ++ "." ++ Name.quotedColumn name) := by
  unfold InScope at h
  push Not at h
  obtain ⟨q, name, row, i, hcolumn, hrow, hi, hlater⟩ := h
  obtain ⟨j, hj, hsql⟩ := hcolumns q name row hcolumn hrow
  exact ⟨q, name, i, hcolumn, hlater, hi.unique hj ▸ hsql none⟩

/-! ## Other conditions for the joins -/

/-- The rules are about the number of joins and not about their conditions. -/
theorem Legal.withJoins (hp : p.Legal) {joins : List Predicate} (hlength : joins.length = p.joins.length) :
    { p with joins := joins }.Legal where
  source := hp.source
  topics := hp.topics
  joins h := hlength.trans (hp.joins (hlength ▸ h))
  window h := hlength.trans (hp.window h)
  slide := hp.slide
  having := hp.having
  grouping := hp.grouping
  labels := hp.labels

/-- Where the conditions are written, so are the clauses of the joins. -/
theorem joinClauses_of_written {aliases : Aliases} (tables : List String) {joins : List Predicate}
    (h : ∀ predicate ∈ joins, ∃ condition, predicate.body.sql functions aliases = .ok condition) (index : Nat) :
    ∃ clauses, joinClauses functions aliases index (tables.zip joins) = .ok clauses := by
  induction tables generalizing index joins with
  | nil => exact ⟨[], rfl⟩
  | cons table tables ih =>
    cases joins with
    | nil => exact ⟨[], rfl⟩
    | cons predicate joins =>
      obtain ⟨⟨condition, hcondition⟩, hrest⟩ := List.forall_mem_cons.mp h
      obtain ⟨clauses, hclauses⟩ := ih hrest (index + 1)
      exact ⟨_, bind_eq_ok.mpr ⟨condition, hcondition, bind_eq_ok.mpr ⟨clauses, hclauses, rfl⟩⟩⟩

/-- A plan that is written is written also with other conditions for its joins, if these are. -/
theorem selectSql_withJoins {text : String} (h : p.selectSql functions = .ok text) {joins : List Predicate}
    (hlength : joins.length = p.joins.length)
    (hjoins : ∀ predicate ∈ joins, ∃ condition, predicate.body.sql functions p.aliases = .ok condition) :
    ∃ text, { p with joins := joins }.selectSql functions = .ok text := by
  have hlegal := legal_of_selectSql h
  obtain ⟨s, hparts, rfl⟩ := selectSql_parts h
  have htables : ∃ clauses, { p with joins := joins }.tableClauses functions = .ok clauses := by
    have hclauses := hparts.tables
    rw [tableClauses] at hclauses ⊢
    cases hnames : p.tableNames with
    | nil => exact absurd hnames hlegal.tableNames_ne_nil
    | cons first others =>
      rw [hnames] at hclauses
      obtain ⟨source, hsource, -⟩ := bind_eq_ok.mp hclauses
      obtain ⟨clauses, hjoined⟩ := joinClauses_of_written (others.map Name.quotedObject) hjoins 1
      have hnames' : { p with joins := joins }.tableNames = first :: others := hnames
      rw [hnames']
      exact ⟨source :: clauses, bind_eq_ok.mpr ⟨source, hsource, bind_eq_ok.mpr ⟨clauses, hjoined, rfl⟩⟩⟩
  obtain ⟨clauses, hclauses⟩ := htables
  have hparts' : { p with joins := joins }.HasParts functions { s with tables := clauses } :=
    ⟨hparts.items, hclauses, hparts.wheres, hparts.groups, hparts.having⟩
  exact ⟨_, selectSql_of_parts hparts' (hlegal.withJoins hlength)⟩

/-- What the conditions of joins range over. In a plan that is written, the condition behind `JOIN ... AS t` with the index of the
join counted from one is that of the join, and its columns go by position among all sources. If every row type in it stands at the
position of the join or before, it refers to no later table; if one does not, a column of it is written behind the alias of a later
table all the same. With other conditions for its joins, as many and each of them written, the plan is written as well. -/
theorem join_conditions_range_over_sources {text : String} (h : p.selectSql functions = .ok text) :
    ∃ s, p.HasParts functions s ∧ text = s.text ∧
      (∀ i predicate, p.joins[i]? = some predicate → ∃ name condition,
        s.tables[i + 1]? = some (" JOIN " ++ Name.quotedObject name ++ " AS " ++ tableAlias (i + 1) ++ " ON " ++ condition) ∧
        predicate.body.sql functions p.aliases = .ok condition ∧
        predicate.body.ByPosition functions p.sourceTypes condition ∧
        (InScope p.sourceTypes (i + 1) predicate.body → functions = .standard →
          ∀ r ∈ references condition, ∃ j ≤ i + 1, r.lead = tableAlias j ++ ".") ∧
        (¬InScope p.sourceTypes (i + 1) predicate.body → ∃ q name j, .column q name ∈ predicate.body.nodes ∧ i + 1 < j ∧
          (Expr.column q name).sql functions p.aliases = .ok (tableAlias j ++ "." ++ Name.quotedColumn name))) ∧
      ∀ joins : List Predicate, joins.length = p.joins.length →
        (∀ predicate ∈ joins, ∃ condition, predicate.body.sql functions p.aliases = .ok condition) →
        ∃ text, { p with joins := joins }.selectSql functions = .ok text := by
  have hlegal := legal_of_selectSql h
  obtain ⟨s, hparts, rfl⟩ := selectSql_parts h
  refine ⟨s, hparts, rfl, fun i predicate hjoin => ?_, fun joins hlength hjoins => selectSql_withJoins h hlength hjoins⟩
  obtain ⟨name, condition, -, hcondition, hclause⟩ := hparts.joined hlegal hjoin
  have hposition : predicate.body.ByPosition functions p.sourceTypes condition := Expr.byPosition_of_written hcondition
  refine ⟨name, condition, hclause, hcondition, hposition, fun hscope hstandard r hr => ?_, fun hscope => ?_⟩
  · exact lead_of_inScope hscope (hposition.references hstandard r hr)
  · exact later_of_not_inScope hscope hposition.columns

/-- A comparison of keys is in scope where both row types are. -/
theorem inScope_sameKey {sources : List String} {row other : String} {i j last : Nat} (hi : IsLast row sources i)
    (hj : IsLast other sources j) (hilast : i ≤ last) (hjlast : j ≤ last) : InScope sources last (sameKey row other) := by
  have hnodes : (sameKey row other).nodes = [sameKey row other, .column ⟨"a", some row⟩ "Key", .column ⟨"b", some other⟩ "Key"] := by
    rw [sameKey, Expr.nodes, Expr.nodes, Expr.nodes]
    rfl
  intro q name row' k hcolumn hrow hk
  rw [hnodes, List.mem_cons, List.mem_cons, List.mem_singleton] at hcolumn
  rcases hcolumn with hcolumn | hcolumn | hcolumn
  · cases hcolumn
  · cases hcolumn
    cases hrow
    exact hk.unique hi ▸ hilast
  · cases hcolumn
    cases hrow
    exact hk.unique hj ▸ hjlast

/-- Orders joined with customers and then with payments. -/
abbrev ordersPaid (customers payments : Expr) : Plan := ordersJoined ["Customer", "Payment"] [customers, payments]

/-- Orders are compared with customers first and customers with payments then: the first condition refers to the first two tables
only. With the second condition in both places the plan is still written. -/
theorem ordersPaid_in_scope :
    (∃ s : SelectParts, s.text = "SELECT * FROM `order` AS t0 JOIN `customer` AS t1 ON (t0.`key` = t1.`key`)" ++
        " JOIN `payment` AS t2 ON (t1.`key` = t2.`key`)" ∧
      ∃ name condition, s.tables[1]? = some (" JOIN " ++ Name.quotedObject name ++ " AS " ++ tableAlias 1 ++ " ON " ++ condition) ∧
        ∀ r ∈ references condition, ∃ j ≤ 1, r.lead = tableAlias j ++ ".") ∧
      ∃ text, (ordersPaid (sameKey "Customer" "Payment") (sameKey "Customer" "Payment")).selectSql .standard = .ok text := by
  have htext : (ordersPaid (sameKey "Order" "Customer") (sameKey "Customer" "Payment")).selectSql .standard =
      .ok ("SELECT * FROM `order` AS t0 JOIN `customer` AS t1 ON (t0.`key` = t1.`key`)" ++
        " JOIN `payment` AS t2 ON (t1.`key` = t2.`key`)") := eq_ok_of_toOption (by decide +kernel)
  have hnodup : ["Order", "Customer", "Payment"].Nodup := by decide
  have hscope : InScope ["Order", "Customer", "Payment"] 1 (sameKey "Order" "Customer") :=
    inScope_sameKey (isLast_of_nodup hnodup rfl) (isLast_of_nodup hnodup rfl) (Nat.zero_le 1) (Nat.le_refl 1)
  have hsecond : ∃ condition, (sameKey "Customer" "Payment").sql .standard ⟨["Order", "Customer", "Payment"], none⟩ = .ok condition :=
    ⟨"(t1.`key` = t2.`key`)", eq_ok_of_toOption (by decide +kernel)⟩
  obtain ⟨s, -, hs, hjoins, hothers⟩ := join_conditions_range_over_sources htext
  obtain ⟨name, condition, hclause, -, -, hrefers, -⟩ := hjoins 0 _ rfl
  refine ⟨⟨s, hs.symm, name, condition, hclause, hrefers hscope rfl⟩, ?_⟩
  refine hothers [.ofExpr (sameKey "Customer" "Payment"), .ofExpr (sameKey "Customer" "Payment")] rfl fun predicate hpredicate => ?_
  have hbody : predicate = .ofExpr (sameKey "Customer" "Payment") := by simpa using hpredicate
  exact hbody ▸ hsecond

/-- Orders are compared with payments where the customers are joined: the plan is written, with the alias of the third table behind
`ON` of the second. -/
theorem ordersPaid_out_of_scope :
    (ordersPaid (sameKey "Order" "Payment") (sameKey "Customer" "Payment")).selectSql .standard =
        .ok ("SELECT * FROM `order` AS t0 JOIN `customer` AS t1 ON (t0.`key` = t2.`key`)" ++
          " JOIN `payment` AS t2 ON (t1.`key` = t2.`key`)") ∧
      ⟨"t2.", "key"⟩ ∈ references "(t0.`key` = t2.`key`)" ∧
      ¬InScope ["Order", "Customer", "Payment"] 1 (sameKey "Order" "Payment") := by
  refine ⟨eq_ok_of_toOption (by decide +kernel), by decide +kernel, fun hscope => ?_⟩
  have hcolumn : .column ⟨"b", some "Payment"⟩ "Key" ∈ (sameKey "Order" "Payment").nodes :=
    Expr.mem_nodes_of_child (List.mem_cons_of_mem _ List.mem_cons_self) (Expr.mem_nodes_self _)
  have hlast : IsLast "Payment" ["Order", "Customer", "Payment"] 2 := isLast_of_nodup (by decide) rfl
  exact absurd (hscope _ _ _ 2 hcolumn rfl hlast) (by decide)

end Plan

end FlinkSql
