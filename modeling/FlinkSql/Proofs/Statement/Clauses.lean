import FlinkSql.Proofs.Expr.Exposed
import FlinkSql.Proofs.Statement.Layout
import FlinkSql.Proofs.Statement.Writing

/-!
# The clauses of a statement

Each table of a plan has its clause, the first one under FROM and every other one under the join that brings it in;
`Plan.Introduces` is the clause at a position. Each expression of a plan is written in its clause. With the functions of Flink the
clauses are closed, so the text of the statement exposes them, and in them what is written of each expression.
-/

namespace FlinkSql

open Text

namespace Plan

variable {functions : Registry} {p : Plan} {s : SelectParts}

/-! ## The clauses with tables -/

/-- The clause that brings in the table at a position, under the alias of that position. The first table stands quoted behind
words that are known, whether it is cut into windows or not; so does every other one. -/
inductive Introduces (functions : Registry) (p : Plan) : Nat → String → Prop
  | first {name source lead rest : String} (hname : p.tableNames[0]? = some name)
      (hsource : fromSql (Name.quotedObject name) p.window = .ok source) (hlead : lead ∈ tableLeads)
      (htable : " FROM " ++ source ++ " AS " ++ tableAlias 0 = lead ++ Name.quotedObject name ++ rest)
      (hrest : rest.toList.head? ≠ some backtick) :
      Introduces functions p 0 (" FROM " ++ source ++ " AS " ++ tableAlias 0)
  | joined {i : Nat} {name condition : String} {predicate : Predicate} (hname : p.tableNames[i + 1]? = some name)
      (hjoin : p.joins[i]? = some predicate) (hcondition : predicate.body.sql functions p.aliases = .ok condition) :
      Introduces functions p (i + 1)
        (" JOIN " ++ Name.quotedObject name ++ " AS " ++ tableAlias (i + 1) ++ " ON " ++ condition)

/-- The joined tables, one after the other. -/
theorem joinClauses_getElem? {aliases : Aliases} {index : Nat} {names : List String} {joins : List Predicate}
    (hlength : names.length = joins.length) {clauses : List String}
    (h : joinClauses functions aliases index ((names.map Name.quotedObject).zip joins) = .ok clauses) :
    clauses.length = names.length ∧ ∀ i clause, clauses[i]? = some clause → ∃ name predicate condition,
      names[i]? = some name ∧ joins[i]? = some predicate ∧ predicate.body.sql functions aliases = .ok condition ∧
      clause = " JOIN " ++ Name.quotedObject name ++ " AS " ++ tableAlias (index + i) ++ " ON " ++ condition := by
  induction names generalizing index joins clauses with
  | nil =>
    cases h
    exact ⟨rfl, fun i clause hclause => by simp at hclause⟩
  | cons name names ih =>
    cases joins with
    | nil => cases hlength
    | cons predicate joins =>
      obtain ⟨condition, hcondition, h⟩ := bind_eq_ok.mp h
      obtain ⟨others, hothers, h⟩ := bind_eq_ok.mp h
      cases h
      obtain ⟨hcount, hrest⟩ := ih (Nat.succ.inj hlength) hothers
      refine ⟨by rw [List.length_cons, List.length_cons, hcount], fun i clause hclause => ?_⟩
      cases i with
      | zero =>
        cases hclause
        exact ⟨name, predicate, condition, rfl, rfl, hcondition, rfl⟩
      | succ i =>
        obtain ⟨name', predicate', condition', hname, hjoin, hsql, rfl⟩ := hrest i clause hclause
        refine ⟨name', predicate', condition', hname, hjoin, hsql, ?_⟩
        rw [Nat.add_assoc, Nat.add_comm 1 i]

/-- There is one clause a table, and each brings in the table at its position. -/
theorem HasParts.introduces (h : p.HasParts functions s) (hp : p.Legal) :
    s.tables.length = p.tableNames.length ∧ ∀ i clause, s.tables[i]? = some clause → p.Introduces functions i clause := by
  have htables := h.tables
  have hlength := hp.length_tableNames
  rw [tableClauses] at htables
  cases hnames : p.tableNames with
  | nil => exact absurd hnames hp.tableNames_ne_nil
  | cons first others =>
    rw [hnames] at htables hlength
    obtain ⟨source, hsource, htables⟩ := bind_eq_ok.mp htables
    obtain ⟨joins, hjoins, htables⟩ := bind_eq_ok.mp htables
    obtain ⟨hcount, hjoined⟩ := joinClauses_getElem? (Nat.succ.inj hlength) hjoins
    rw [← Except.ok.inj htables]
    refine ⟨by rw [List.length_cons, List.length_cons, hcount], fun i clause hclause => ?_⟩
    cases i with
    | zero =>
      cases hclause
      obtain ⟨lead, hlead, rest, htable, hrest⟩ := fromClause_eq_ok hsource
      obtain ⟨text, htext, hsource⟩ := bind_eq_ok.mp hsource
      cases hsource
      exact .first (congrArg (fun names => names[0]?) hnames) htext hlead htable hrest
    | succ i =>
      obtain ⟨name, predicate, condition, hname, hjoin, hcondition, rfl⟩ := hjoined i clause hclause
      rw [Nat.add_comm 1 i]
      exact .joined ((congrArg (fun names => names[i + 1]?) hnames).trans hname) hjoin hcondition

/-- The clause of a join is there, with the condition in SQL. -/
theorem HasParts.joined (h : p.HasParts functions s) (hp : p.Legal) {i : Nat} {predicate : Predicate}
    (hjoin : p.joins[i]? = some predicate) : ∃ name condition, p.tableNames[i + 1]? = some name ∧
      predicate.body.sql functions p.aliases = .ok condition ∧ s.tables[i + 1]? =
        some (" JOIN " ++ Name.quotedObject name ++ " AS " ++ tableAlias (i + 1) ++ " ON " ++ condition) := by
  obtain ⟨hcount, hclauses⟩ := h.introduces hp
  obtain ⟨hi, -⟩ := List.getElem?_eq_some_iff.mp hjoin
  have hlength := hp.length_tableNames
  obtain ⟨clause, hclause⟩ : ∃ clause, s.tables[i + 1]? = some clause :=
    ⟨_, List.getElem?_eq_getElem (by omega)⟩
  cases hclauses _ _ hclause with
  | @joined _ name condition other hname hother hcondition =>
    cases Option.some.inj (hjoin.symm.trans hother)
    exact ⟨name, condition, hname, hcondition, hclause⟩

/-! ## The clauses with expressions -/

/-- An item of the projection stands among the items. -/
theorem HasParts.item_written (h : p.HasParts functions s) {item : Item} (hitem : item ∈ p.selection.itemList) :
    ∃ sql, item.expr.sql functions p.aliases = .ok sql ∧ (functions = .standard → Exposes sql s.items) := by
  have hitems := h.items
  rw [itemsSql] at hitems
  cases hselection : p.selection with
  | wildcard param =>
    rw [hselection] at hitem
    cases hitem
  | items values =>
    rw [hselection] at hitems hitem
    obtain ⟨texts, htexts, hlist⟩ := bind_eq_ok.mp hitems
    obtain ⟨text, hmem, htext⟩ := exists_of_mapM_eq_ok htexts item hitem
    obtain ⟨sql, hsql, hlabel⟩ := bind_eq_ok.mp htext
    refine ⟨sql, hsql, ?_⟩
    rintro rfl
    have hclosed : ∀ t ∈ texts, Closed t := by
      refine forall_of_mapM_eq_ok htexts fun other _ t ht => ?_
      obtain ⟨u, hu, ht⟩ := bind_eq_ok.mp ht
      have has : Closed " AS " := rfl
      rw [← Except.ok.inj ht]
      exact ((Expr.closed_sql p.neutral_output hu).append has).append (neutral_quotedName _).closed
    have hcomma : Closed ", " := rfl
    have hlabelled : Exposes sql text := by
      rw [← Except.ok.inj hlabel]
      exact ((exposes_self sql).then _).then _
    rw [← Except.ok.inj hlist]
    exact hlabelled.trans (exposes_intercalate hcomma hclosed hmem)

/-- A condition on rows stands behind WHERE. -/
theorem HasParts.where_written (h : p.HasParts functions s) {predicate : Predicate} (hpredicate : predicate ∈ p.wheres) :
    ∃ sql, predicate.body.sql functions p.aliases = .ok sql ∧ (functions = .standard → Exposes sql s.wheres) := by
  obtain ⟨texts, htexts, hwheres⟩ := bind_eq_ok.mp h.wheres
  obtain ⟨sql, hmem, hsql⟩ := exists_of_mapM_eq_ok htexts predicate hpredicate
  refine ⟨sql, hsql, ?_⟩
  rintro rfl
  have hclosed : ∀ t ∈ texts, Closed t := forall_of_mapM_eq_ok htexts fun _ _ _ ht => Expr.closed_sql p.neutral_output ht
  have hword : Closed " WHERE " := rfl
  have hand : Closed " AND " := rfl
  have hsome : texts.isEmpty = false := List.isEmpty_eq_false_iff.mpr (List.ne_nil_of_mem hmem)
  rw [← Except.ok.inj hwheres, hsome]
  exact (exposes_intercalate hand hclosed hmem).behind hword

/-- A grouping key stands behind GROUP BY, also where the bounds of a window are added. -/
theorem HasParts.key_written (h : p.HasParts functions s) {keys : Selection} (hgrouping : p.grouping = some keys) {item : Item}
    (hitem : item ∈ keys.itemList) :
    ∃ sql, item.expr.sql functions p.aliases = .ok sql ∧ (functions = .standard → Exposes sql s.groups) := by
  obtain ⟨groups, hgroups, hclause⟩ := bind_eq_ok.mp h.groups
  rw [groupKeys, hgrouping] at hgroups
  obtain ⟨texts, htexts, hbounds⟩ := bind_eq_ok.mp hgroups
  obtain ⟨sql, hmem, hsql⟩ := exists_of_mapM_eq_ok htexts item hitem
  refine ⟨sql, hsql, ?_⟩
  rintro rfl
  have hneutral : ∀ t ∈ texts, Neutral t := forall_of_mapM_eq_ok htexts fun other _ _ ht =>
    (Expr.neutral_sql p.neutral_output other.expr).value ht
  have hword : Closed " GROUP BY " := rfl
  have hcomma : Closed ", " := rfl
  have hkey : sql ∈ groupKeys.withBounds p texts := by
    unfold groupKeys.withBounds
    split
    · exact List.mem_append_left _ hmem
    · exact hmem
  rw [← Except.ok.inj hclause, ← Except.ok.inj hbounds]
  exact (exposes_intercalate hcomma (fun t ht => (neutral_withBounds p hneutral t ht).closed) hkey).behind hword

end Plan

/-! ## What a statement exposes -/

namespace SelectParts

/-- A statement whose clauses are closed; the condition on groups, which is the last one, may be any text. -/
structure IsClosed (s : SelectParts) : Prop where
  items : Closed s.items
  tables : ∀ clause ∈ s.tables, Closed clause
  wheres : Closed s.wheres
  groups : Closed s.groups

variable {s : SelectParts}

theorem closed_select : Closed "SELECT " := rfl

/-- A statement exposes its items. -/
theorem exposes_items (s : SelectParts) : Exposes s.items s.text :=
  ((((closed_select.exposes s.items).then _).then _).then _).then _

namespace IsClosed

/-- What stands in front of the conditions on rows is closed. -/
theorem front (h : s.IsClosed) : Closed ("SELECT " ++ s.items ++ String.join s.tables) :=
  (closed_select.append h.items).append (closed_join h.tables)

/-- A statement exposes each clause with a table. -/
theorem exposes_table (h : s.IsClosed) {clause : String} (hclause : clause ∈ s.tables) : Exposes clause s.text :=
  ((((exposes_join h.tables hclause).behind (closed_select.append h.items)).then _).then _).then _

/-- A statement exposes its conditions on rows. -/
theorem exposes_wheres (h : s.IsClosed) : Exposes s.wheres s.text := ((h.front.exposes s.wheres).then _).then _

/-- A statement exposes its grouping keys. -/
theorem exposes_groups (h : s.IsClosed) : Exposes s.groups s.text := ((h.front.append h.wheres).exposes s.groups).then _

/-- A statement exposes its condition on groups. -/
theorem exposes_having (h : s.IsClosed) : Exposes s.having s.text := ((h.front.append h.wheres).append h.groups).exposes s.having

end IsClosed

end SelectParts

namespace Plan

variable {functions : Registry} {p : Plan} {s : SelectParts}

/-- What stands in front of the condition of a join is closed. -/
theorem closed_join_front (name : String) (i : Nat) :
    Closed (" JOIN " ++ Name.quotedObject name ++ " AS " ++ tableAlias i ++ " ON ") := by
  have hword : Closed " JOIN " := rfl
  have has : Closed " AS " := rfl
  have hon : Closed " ON " := rfl
  exact (((hword.append (neutral_quotedName _).closed).append has).append (neutral_tableAlias i).closed).append hon

/-- The clause of a table is closed. -/
theorem Introduces.closed (hp : p.Legal) {i : Nat} {clause : String} (h : p.Introduces .standard i clause) : Closed clause := by
  cases h with
  | @first name source _ _ _ hsource =>
    have hword : Closed " FROM " := rfl
    have has : Closed " AS " := rfl
    have hclosed : Closed source := ((neutral_fromSql hp (neutral_quotedName _)).value hsource).closed
    exact ((hword.append hclosed).append has).append (neutral_tableAlias 0).closed
  | @joined i name condition _ _ _ hcondition =>
    exact (closed_join_front name (i + 1)).append (Expr.closed_sql p.neutral_output hcondition)

/-- With the functions of Flink, the clauses of a legal plan are closed. -/
theorem HasParts.isClosed (h : p.HasParts .standard s) (hp : p.Legal) : s.IsClosed where
  items := (p.neutral_itemsSql.value h.items).closed
  tables clause hclause := by
    obtain ⟨i, hi⟩ := List.mem_iff_getElem?.mp hclause
    exact ((h.introduces hp).2 i clause hi).closed hp
  wheres := (p.neutral_wheresSql.value h.wheres).closed
  groups := (p.neutral_groupBySql.value h.groups).closed

/-- Where a plan is written, so are all its expressions; and with the functions of Flink, the statement exposes them. -/
theorem HasParts.written (h : p.HasParts functions s) (hp : p.Legal) {e : Expr} (he : e ∈ p.expressions) :
    ∃ sql, e.sql functions p.aliases = .ok sql ∧ (functions = .standard → Exposes sql s.text) := by
  rw [expressions] at he
  simp only [List.mem_append, List.mem_map] at he
  rcases he with (⟨item, hitem, rfl⟩ | ⟨predicate, hjoin, rfl⟩) | (⟨predicate, hwhere, rfl⟩ | ⟨item, hkey, rfl⟩)
  · obtain ⟨sql, hsql, hexposes⟩ := h.item_written hitem
    exact ⟨sql, hsql, fun hstandard => (hexposes hstandard).trans s.exposes_items⟩
  · obtain ⟨i, hi⟩ := List.mem_iff_getElem?.mp hjoin
    obtain ⟨name, sql, -, hsql, hclause⟩ := h.joined hp hi
    refine ⟨sql, hsql, ?_⟩
    rintro rfl
    exact ((closed_join_front name (i + 1)).exposes sql).trans ((h.isClosed hp).exposes_table (List.mem_of_getElem? hclause))
  · obtain ⟨sql, hsql, hexposes⟩ := h.where_written hwhere
    refine ⟨sql, hsql, ?_⟩
    rintro rfl
    exact (hexposes rfl).trans (h.isClosed hp).exposes_wheres
  · obtain ⟨keys, hgrouping, hitem⟩ := List.mem_flatMap.mp hkey
    obtain ⟨sql, hsql, hexposes⟩ := h.key_written (Option.mem_toList.mp hgrouping) hitem
    refine ⟨sql, hsql, ?_⟩
    rintro rfl
    exact (hexposes rfl).trans (h.isClosed hp).exposes_groups

end Plan

end FlinkSql
