import FlinkSql.Proofs.Name
import FlinkSql.Proofs.Outcome
import FlinkSql.Proofs.Statement.Legality
import FlinkSql.Statement.Select

/-!
# The parts of a SELECT

A SELECT is its items, the clauses that name tables (FROM, and then one JOIN a condition), and the clauses behind them.
`Plan.HasParts` says which parts a plan has, and `Plan.selectSql_parts` that what is written are these parts in a row. Which table
a clause names is read from its text: `SelectParts.read` reads the tables of the plan, in order.
-/

namespace FlinkSql

open Text

/-! ## Reading a name behind fixed words -/

/-- The name between backticks behind fixed words at the start of a text. -/
def nameAfter? (lead : String) (s : List Char) : Option String := do
  let s ← after? (lead ++ "`") s
  let (name, _) ← unquoted? backtick s
  return String.ofList name

/-- The fixed words with the opening backtick of the name behind them. -/
theorem toList_lead (lead name : String) (rest : List Char) : lead.toList ++ ((Name.quotedObject name).toList ++ rest) =
    (lead ++ "`").toList ++ ((Name.object name).toList ++ backtick :: rest) := by
  have hbacktick : "`".toList = [backtick] := by decide
  rw [Name.toList_quotedObject, String.toList_append, hbacktick]
  simp only [List.cons_append, List.append_assoc, List.nil_append]

/-- A quoted table is read back behind its fixed words, whatever follows that is no backtick. -/
theorem nameAfter?_quotedObject (lead name : String) {rest : List Char} (h : rest.head? ≠ some backtick) :
    nameAfter? lead (lead.toList ++ ((Name.quotedObject name).toList ++ rest)) = some (Name.object name) := by
  have hfree : backtick ∉ (Name.object name).toList := fun hmem => absurd (Name.isPlain_of_mem_object hmem) (by decide)
  have hread := unquoted?_doubled (Name.object name).toList h
  rw [doubled_of_not_mem hfree] at hread
  rw [toList_lead, nameAfter?, after?_append, Option.bind_eq_bind, Option.bind_some, hread]
  exact congrArg some String.ofList_toList

/-! ## Clauses that name tables -/

/-- The fixed words in front of the table of a clause. -/
def tableLeads : List String :=
  [" JOIN ", " FROM ", " FROM TABLE(TUMBLE(TABLE ", " FROM TABLE(HOP(TABLE ", " FROM TABLE(SESSION(TABLE "]

/-- The table that a clause names. -/
def clauseTable? (clause : String) : Option String := tableLeads.findSome? fun lead => nameAfter? lead clause.toList

/-- A clause is read by the fixed words with which it begins, and by no others. -/
theorem clauseTable?_of_lead {lead : String} (hlead : lead ∈ tableLeads) (name : String) {rest : String}
    (hrest : rest.toList.head? ≠ some backtick) : clauseTable? (lead ++ Name.quotedObject name ++ rest) = some (Name.object name) := by
  have hclause : (lead ++ Name.quotedObject name ++ rest).toList =
      lead.toList ++ ((Name.quotedObject name).toList ++ rest.toList) := by
    rw [String.toList_append, String.toList_append, List.append_assoc]
  have hread := nameAfter?_quotedObject lead name hrest
  have hapart : ∀ lead ∈ tableLeads, ∀ other ∈ tableLeads, other ≠ lead →
      ¬(other ++ "`").toList <+: (lead ++ "`").toList ∧ ¬(lead ++ "`").toList <+: (other ++ "`").toList := by
    decide
  have hother : ∀ other ∈ tableLeads, other ≠ lead →
      nameAfter? other (lead.toList ++ ((Name.quotedObject name).toList ++ rest.toList)) = none := by
    intro other hmem hne
    obtain ⟨hword, hword'⟩ := hapart lead hlead other hmem hne
    rw [toList_lead, nameAfter?, after?_of_not_prefix hword hword']
    rfl
  rw [clauseTable?, hclause]
  obtain ⟨before, after, hsplit⟩ := List.append_of_mem hlead
  rw [hsplit, List.findSome?_append, List.findSome?_cons, hread]
  cases hbefore : before.findSome? fun other => nameAfter? other (lead.toList ++ ((Name.quotedObject name).toList ++ rest.toList)) with
  | none => rfl
  | some found =>
    obtain ⟨other, hmem, hfound⟩ := List.exists_of_findSome?_eq_some hbefore
    by_cases hsame : other = lead
    · rw [← hfound, hsame, hread]
      rfl
    · rw [hother other (hsplit ▸ List.mem_append_left _ hmem) hsame] at hfound
      cases hfound

/-! ## The parts of a statement -/

/-- A SELECT, taken apart. -/
structure SelectParts where
  items : String
  /-- FROM, and then every JOIN. -/
  tables : List String
  wheres : String
  groups : String
  having : String

namespace SelectParts

/-- The statement. -/
def text (s : SelectParts) : String :=
  "SELECT " ++ s.items ++ String.join s.tables ++ s.wheres ++ s.groups ++ s.having

/-- The tables that the statement names. -/
def read (s : SelectParts) : List (Option String) := s.tables.map clauseTable?

end SelectParts

namespace Plan

/-- The clause with the first table. -/
def fromClause (table : String) (window : Option Window) : Except Failure String := do
  let source ← fromSql table window
  return " FROM " ++ source ++ " AS " ++ tableAlias 0

/-- The clauses with the other tables, each with its condition. -/
def joinClauses (functions : Registry) (aliases : Aliases) : Nat → List (String × Predicate) → Except Failure (List String)
  | _, [] => .ok []
  | index, (table, predicate) :: rest => do
    let condition ← predicate.body.sql functions aliases
    let others ← joinClauses functions aliases (index + 1) rest
    return (" JOIN " ++ table ++ " AS " ++ tableAlias index ++ " ON " ++ condition) :: others

/-- The clauses with all tables of the plan. -/
def tableClauses (functions : Registry) (p : Plan) : Except Failure (List String) :=
  match p.tableNames with
  | [] => .ok []
  | first :: others => do
    let source ← fromClause (Name.quotedObject first) p.window
    let joins ← joinClauses functions p.aliases 1 ((others.map Name.quotedObject).zip p.joins)
    return source :: joins

/-- The condition on groups. -/
def havingSql (functions : Registry) (p : Plan) : Except Failure String :=
  match p.having with
  | none => .ok ""
  | some condition => do
    let text ← Having.sql functions p condition
    return " HAVING " ++ text

/-- The parts of the SELECT that a plan is written as. -/
structure HasParts (functions : Registry) (p : Plan) (s : SelectParts) : Prop where
  items : p.itemsSql functions = .ok s.items
  tables : p.tableClauses functions = .ok s.tables
  wheres : p.wheresSql functions = .ok s.wheres
  groups : p.groupBySql functions = .ok s.groups
  having : p.havingSql functions = .ok s.having

theorem joinsSql_eq_ok {functions : Registry} {aliases : Aliases} {index : Nat} {joins : List (String × Predicate)}
    {text : String} (h : joinsSql functions aliases index joins = .ok text) :
    ∃ clauses, joinClauses functions aliases index joins = .ok clauses ∧ text = String.join clauses := by
  induction joins generalizing index text with
  | nil =>
    cases h
    exact ⟨[], rfl, rfl⟩
  | cons join rest ih =>
    obtain ⟨condition, hcondition, h⟩ := bind_eq_ok.mp h
    obtain ⟨others, hothers, h⟩ := bind_eq_ok.mp h
    obtain ⟨clauses, hclauses, rfl⟩ := ih hothers
    cases h
    refine ⟨_, bind_eq_ok.mpr ⟨condition, hcondition, bind_eq_ok.mpr ⟨clauses, hclauses, rfl⟩⟩, ?_⟩
    rw [String.join_cons]

/-- The condition on groups stands behind the rest. -/
theorem selectSql_split {functions : Registry} {p : Plan} {text : String} (h : p.selectSql functions = .ok text) :
    ∃ grouped having, p.groupedSql functions = .ok grouped ∧ p.havingSql functions = .ok having ∧ text = grouped ++ having := by
  obtain ⟨grouped, hgrouped, h⟩ := bind_eq_ok.mp h
  unfold havingSql
  cases hcondition : p.having with
  | none =>
    rw [hcondition] at h
    cases h
    exact ⟨text, "", hgrouped, rfl, String.append_empty.symm⟩
  | some condition =>
    rw [hcondition] at h
    obtain ⟨having, hhaving, h⟩ := bind_eq_ok.mp h
    cases h
    exact ⟨grouped, _, hgrouped, bind_eq_ok.mpr ⟨having, hhaving, rfl⟩, String.append_assoc⟩

/-- A plan that is written is written as its parts. -/
theorem selectSql_parts {functions : Registry} {p : Plan} {text : String} (h : p.selectSql functions = .ok text) :
    ∃ s, p.HasParts functions s ∧ text = s.text := by
  obtain ⟨grouped, having, hgrouped, hhaving, rfl⟩ := selectSql_split h
  obtain ⟨_, -, hgrouped⟩ := bind_eq_ok.mp hgrouped
  cases htables : p.tableNames with
  | nil =>
    rw [htables] at hgrouped
    cases hgrouped
  | cons first others =>
    rw [htables, List.map_cons] at hgrouped
    obtain ⟨items, hitems, hgrouped⟩ := bind_eq_ok.mp hgrouped
    obtain ⟨source, hsource, hgrouped⟩ := bind_eq_ok.mp hgrouped
    obtain ⟨joins, hjoins, hgrouped⟩ := bind_eq_ok.mp hgrouped
    obtain ⟨wheres, hwheres, hgrouped⟩ := bind_eq_ok.mp hgrouped
    obtain ⟨groups, hgroups, hgrouped⟩ := bind_eq_ok.mp hgrouped
    obtain ⟨clauses, hclauses, rfl⟩ := joinsSql_eq_ok hjoins
    cases hgrouped
    have hfrom : fromClause (Name.quotedObject first) p.window = .ok (" FROM " ++ source ++ " AS " ++ tableAlias 0) :=
      bind_eq_ok.mpr ⟨source, hsource, rfl⟩
    refine ⟨⟨items, (" FROM " ++ source ++ " AS " ++ tableAlias 0) :: clauses, wheres, groups, having⟩, ⟨hitems, ?_, hwheres,
      hgroups, hhaving⟩, ?_⟩
    · rw [tableClauses, htables]
      exact bind_eq_ok.mpr ⟨_, hfrom, bind_eq_ok.mpr ⟨clauses, hclauses, rfl⟩⟩
    · simp only [SelectParts.text, String.join_cons, String.append_assoc]

theorem joinsSql_of_joinClauses {functions : Registry} {aliases : Aliases} {index : Nat} {joins : List (String × Predicate)}
    {clauses : List String} (h : joinClauses functions aliases index joins = .ok clauses) :
    joinsSql functions aliases index joins = .ok (String.join clauses) := by
  induction joins generalizing index clauses with
  | nil =>
    cases h
    rfl
  | cons join rest ih =>
    obtain ⟨condition, hcondition, h⟩ := bind_eq_ok.mp h
    obtain ⟨others, hothers, h⟩ := bind_eq_ok.mp h
    cases h
    refine bind_eq_ok.mpr ⟨condition, hcondition, bind_eq_ok.mpr ⟨_, ih hothers, ?_⟩⟩
    rw [String.join_cons]
    rfl

/-- A legal plan all of whose parts are written is written. -/
theorem selectSql_of_parts {functions : Registry} {p : Plan} {s : SelectParts} (h : p.HasParts functions s) (hp : p.Legal) :
    p.selectSql functions = .ok s.text := by
  have htables := h.tables
  rw [tableClauses] at htables
  cases hnames : p.tableNames with
  | nil => exact absurd hnames hp.tableNames_ne_nil
  | cons first others =>
    rw [hnames] at htables
    obtain ⟨clause, hclause, htables⟩ := bind_eq_ok.mp htables
    obtain ⟨joins, hjoins, htables⟩ := bind_eq_ok.mp htables
    obtain ⟨source, hsource, hclause⟩ := bind_eq_ok.mp hclause
    cases hclause
    have hgrouped : p.groupedSql functions = .ok ("SELECT " ++ s.items ++ " FROM " ++ source ++ " AS " ++ tableAlias 0 ++
        String.join joins ++ s.wheres ++ s.groups) := by
      rw [groupedSql, hnames, List.map_cons]
      refine bind_eq_ok.mpr ⟨(), check_eq_ok_iff.mpr hp, bind_eq_ok.mpr ⟨_, h.items, bind_eq_ok.mpr ⟨source, hsource, ?_⟩⟩⟩
      refine bind_eq_ok.mpr ⟨_, joinsSql_of_joinClauses hjoins, bind_eq_ok.mpr ⟨_, h.wheres, ?_⟩⟩
      exact bind_eq_ok.mpr ⟨_, h.groups, rfl⟩
    have htext : s.text = "SELECT " ++ s.items ++ " FROM " ++ source ++ " AS " ++ tableAlias 0 ++ String.join joins ++ s.wheres ++
        s.groups ++ s.having := by
      rw [SelectParts.text, ← Except.ok.inj htables]
      simp only [String.join_cons, String.append_assoc]
    have hhaving := h.having
    rw [havingSql] at hhaving
    rw [selectSql, hgrouped, htext]
    cases hcondition : p.having with
    | none =>
      rw [hcondition] at hhaving
      rw [← Except.ok.inj hhaving, String.append_empty]
      rfl
    | some condition =>
      rw [hcondition] at hhaving
      obtain ⟨text, hsql, hhaving⟩ := bind_eq_ok.mp hhaving
      refine bind_eq_ok.mpr ⟨_, rfl, bind_eq_ok.mpr ⟨text, hsql, ?_⟩⟩
      rw [← Except.ok.inj hhaving, ← String.append_assoc]
      rfl

/-! ## The tables that a plan reads -/

/-- A window function is applied to a table. -/
theorem windowFunction_eq_ok {table function : String} {w : Window} (h : windowFunction table w = .ok function) :
    ∃ name ∈ ["TUMBLE(", "HOP(", "SESSION("], ∃ rest, function = name ++ (windowedTable table w ++ rest) := by
  obtain ⟨size, -, h⟩ := bind_eq_ok.mp h
  split at h
  · cases h
    exact ⟨"TUMBLE(", by decide, ", " ++ (size.sql ++ ")"), by simp only [String.append_assoc]⟩
  · obtain ⟨slide, -, h⟩ := bind_eq_ok.mp h
    cases h
    exact ⟨"HOP(", by decide, ", " ++ (slide.sql ++ (", " ++ (size.sql ++ ")"))), by simp only [String.append_assoc]⟩
  · cases h
  · cases h
    exact ⟨"SESSION(", by decide, ", " ++ (size.sql ++ ")"), by simp only [String.append_assoc]⟩

/-- Cut into windows or not, the first table stands behind words that are known. -/
theorem fromClause_eq_ok {table clause : String} {window : Option Window} (h : fromClause table window = .ok clause) :
    ∃ lead ∈ tableLeads, ∃ rest, clause = lead ++ table ++ rest ∧ rest.toList.head? ≠ some backtick := by
  obtain ⟨source, hsource, h⟩ := bind_eq_ok.mp h
  cases h
  cases window with
  | none =>
    cases hsource
    refine ⟨" FROM ", by decide, " AS " ++ tableAlias 0, String.append_assoc, ?_⟩
    decide
  | some w =>
    obtain ⟨function, hfunction, hsource⟩ := bind_eq_ok.mp hsource
    obtain ⟨name, hname, rest, rfl⟩ := windowFunction_eq_ok hfunction
    cases hsource
    have hlead : ∀ name ∈ ["TUMBLE(", "HOP(", "SESSION("], " FROM TABLE(" ++ name ++ "TABLE " ∈ tableLeads := by decide
    have hwords : " FROM TABLE(" = " FROM " ++ "TABLE(" := by decide
    refine ⟨_, hlead name hname, ", DESCRIPTOR(" ++ (timeColumn w.time ++ ")" ++ rest ++ ")" ++ " AS " ++ tableAlias 0), ?_, ?_⟩
    · simp only [windowedTable, hwords, String.append_assoc]
    · rw [String.toList_append]
      exact fun hhead => absurd (Option.some.inj hhead) (by decide)

theorem clauseTable?_fromClause {name clause : String} {window : Option Window}
    (h : fromClause (Name.quotedObject name) window = .ok clause) : clauseTable? clause = some (Name.object name) := by
  obtain ⟨lead, hlead, rest, rfl, hrest⟩ := fromClause_eq_ok h
  exact clauseTable?_of_lead hlead name hrest

theorem map_clauseTable?_joinClauses {functions : Registry} {aliases : Aliases} {index : Nat} {names : List String}
    {joins : List Predicate} (hlength : names.length = joins.length) {clauses : List String}
    (h : joinClauses functions aliases index ((names.map Name.quotedObject).zip joins) = .ok clauses) :
    clauses.map clauseTable? = names.map fun name => some (Name.object name) := by
  induction names generalizing index joins clauses with
  | nil =>
    cases h
    rfl
  | cons name names ih =>
    cases joins with
    | nil => cases hlength
    | cons predicate joins =>
      obtain ⟨condition, hcondition, h⟩ := bind_eq_ok.mp h
      obtain ⟨others, hothers, h⟩ := bind_eq_ok.mp h
      cases h
      have hclause : clauseTable? (" JOIN " ++ Name.quotedObject name ++ " AS " ++ tableAlias index ++ " ON " ++ condition) =
          some (Name.object name) := by
        have hjoin : " JOIN " ∈ tableLeads := List.mem_cons_self
        have hrest : (" AS " ++ (tableAlias index ++ (" ON " ++ condition))).toList.head? ≠ some backtick := by
          rw [String.toList_append]
          exact fun hhead => absurd (Option.some.inj hhead) (by decide)
        have hread := clauseTable?_of_lead hjoin name hrest
        simp only [String.append_assoc] at hread ⊢
        exact hread
      rw [List.map_cons, List.map_cons, hclause, ih (Nat.succ.inj hlength) hothers]

namespace Legal

variable {p : Plan}

/-- A legal plan has one table a source. -/
theorem length_tableNames_eq (h : p.Legal) : p.tableNames.length = p.sourceTypes.length := by
  rw [tableNames]
  split
  · rfl
  · rename_i hempty
    exact h.topics.resolve_left fun hnil => hempty (List.isEmpty_iff_length_eq_zero.mpr hnil)

/-- A legal plan has one join less than sources. -/
theorem length_joins (h : p.Legal) : p.joins.length + 1 = p.sourceTypes.length := by
  have hsource := h.source
  by_cases hjoin : 1 < p.sourceTypes.length ∨ 0 < p.joins.length
  · have hcount := h.joins hjoin
    omega
  · omega

/-- A legal plan has one join less than tables. -/
theorem length_tableNames (h : p.Legal) : p.tableNames.length = p.joins.length + 1 :=
  h.length_tableNames_eq.trans h.length_joins.symm

end Legal

/-- The tables that are read from the clauses are those of the plan, in order. -/
theorem HasParts.read_eq {functions : Registry} {p : Plan} {s : SelectParts} (h : p.HasParts functions s) (hp : p.Legal) :
    s.read = p.tableNames.map fun name => some (Name.object name) := by
  have htables := h.tables
  have hlength := hp.length_tableNames
  rw [tableClauses] at htables
  cases hnames : p.tableNames with
  | nil => exact absurd hnames hp.tableNames_ne_nil
  | cons first others =>
    rw [hnames] at htables hlength
    obtain ⟨source, hsource, htables⟩ := bind_eq_ok.mp htables
    obtain ⟨joins, hjoins, htables⟩ := bind_eq_ok.mp htables
    rw [SelectParts.read, ← Except.ok.inj htables, List.map_cons, List.map_cons, clauseTable?_fromClause hsource,
      map_clauseTable?_joinClauses (Nat.succ.inj hlength) hjoins]

end Plan

end FlinkSql
