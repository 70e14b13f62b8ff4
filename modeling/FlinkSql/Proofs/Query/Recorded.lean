import FlinkSql.Proofs.FirstOccurrence
import FlinkSql.Proofs.Query.Aggregate
import FlinkSql.Proofs.Statement.Positional

/-!
# What a query records

The steps of a query are of seven kinds, and are taken in any order. What is recorded of the steps of one kind has nothing to do with
the others: `Query.recorded` makes a plan from the arguments of the steps kind by kind, and every query is planned as that. So the
order of the steps matters within a kind only, and the joins fit the sources when no row type is read twice.
-/

namespace FlinkSql

namespace Plan

/-- Whether the plan joins, and not each source but the first with a condition. -/
def Misjoined (p : Plan) : Prop := p.isJoin = true ∧ p.joins.length + 1 ≠ p.sourceTypes.length

/-- Joins that do not fit the sources break a rule: no rule before it is about expressions. -/
theorem fault?_of_misjoined {p : Plan} (h : p.Misjoined) : ∃ cause, p.fault? = some (.constraint cause) := by
  unfold Misjoined at h
  unfold fault?
  simp only [if_pos h]
  split_ifs <;> exact ⟨_, rfl⟩

/-- Joins that do not fit the sources are refused. -/
theorem misjoined_refused {p : Plan} (h : p.Misjoined) (functions : Registry) :
    ∃ f, p.selectSql functions = .error f ∧ f.kind = .dialectConstraint := by
  obtain ⟨cause, hcause⟩ := fault?_of_misjoined h
  exact ⟨.constraint cause, selectSql_of_fault hcause functions, rfl⟩

end Plan

namespace Query

/-! ## Kind by kind -/

/-- The kinds of steps. -/
inductive Kind
  | join
  | filter
  | select
  | groupBy
  | having
  | window
  | upsert
  deriving DecidableEq

/-- The kind of a step. -/
def Step.kind : Step → Kind
  | .join _ _ => .join
  | .filter _ => .filter
  | .select _ => .select
  | .groupBy _ => .groupBy
  | .having _ => .having
  | .window _ => .window
  | .upsert => .upsert

/-- The steps of a kind, in order. -/
def ofKind (kind : Kind) (steps : List Step) : List Step := steps.filter fun s => s.kind = kind

/-- A step has nothing of a kind that is not its own. -/
structure Step.OfItsKind (s : Step) : Prop where
  joined? : s.kind ≠ .join → s.joined? = none
  filtered? : s.kind ≠ .filter → s.filtered? = none
  projection? : s.kind ≠ .select → s.projection? = none
  keys? : s.kind ≠ .groupBy → s.keys? = none
  having? : s.kind ≠ .having → s.having? = none
  window? : s.kind ≠ .window → s.window? = none
  sinkMode? : s.kind ≠ .upsert → s.sinkMode? = none

theorem Step.ofItsKind (s : Step) : s.OfItsKind := by
  cases s <;> constructor <;> simp [Step.kind]

/-- What only steps of one kind set is read off the steps of that kind. -/
theorem filterMap_ofKind {β : Type} {kind : Kind} {set : Step → Option β} (h : ∀ s, s.kind ≠ kind → set s = none)
    (steps : List Step) : (ofKind kind steps).filterMap set = steps.filterMap set := by
  induction steps with
  | nil => rfl
  | cons s rest ih =>
    rw [ofKind, List.filter_cons, ← ofKind]
    by_cases hkind : s.kind = kind
    · rw [if_pos (decide_eq_true hkind), List.filterMap_cons, List.filterMap_cons, ih]
    · rw [if_neg (by simpa using hkind), List.filterMap_cons_none (h s hkind), ih]

/-- The row types that are joined, in order. -/
def joinedRows (steps : List Step) : List String := (steps.filterMap Step.joined?).map (·.1)

/-- The plan of a query, made from the arguments of its steps kind by kind. -/
def recorded (row : String) (joins : List (String × Expr)) (filters projections keys havings : List Expr)
    (windows : List Window) (modes : List SinkMode) : Plan where
  sourceTypes := (row :: joins.map (·.1)).eraseDups
  sourceTopics := []
  joins := joins.map fun j => .ofExpr j.2
  wheres := filters.map .ofExpr
  projection := projections.getLast?
  selection := (projections.getLast?.map Selection.ofExpr).getD (.wildcard none)
  grouping := keys.getLast?.map Selection.ofExpr
  having := havings.getLast?
  window := windows.getLast?
  hasGroupBy := keys.getLast?.isSome
  hasAggregate := projections.any Expr.containsAggregate
  hasHaving := havings.getLast?.isSome
  sinkMode := modes.getLast?.getD .appendOnly

/-! ## What the steps leave of each kind -/

/-- Joined row types are read in order, each once. -/
theorem sourceTypes_of_steps {names : List String} {d : Draft} (hd : d.sourceTypes = names.eraseDups) (steps : List Step) :
    (steps.foldl take d).sourceTypes = (names ++ joinedRows steps).eraseDups := by
  induction steps generalizing d names with
  | nil => rw [List.foldl_nil, hd, joinedRows, List.filterMap_nil, List.map_nil, List.append_nil]
  | cons s rest ih =>
    have htake : (take d s).sourceTypes = s.joined?.elim d.sourceTypes fun j => (d.addSource j.1).sourceTypes :=
      congrArg Draft.sourceTypes (take_eq d s)
    rw [List.foldl_cons]
    cases hjoined : s.joined? with
    | none =>
      rw [hjoined] at htake
      rw [ih (htake.trans hd), joinedRows, joinedRows, List.filterMap_cons_none hjoined]
    | some j =>
      have hadd : (take d s).sourceTypes = (names ++ [j.1]).eraseDups := by
        rw [hjoined] at htake
        rw [htake, eraseDups_concat, Option.elim_some, Draft.addSource_eq, hd]
        simp only [List.mem_eraseDups]
      rw [ih hadd, joinedRows, joinedRows, List.filterMap_cons_some hjoined, List.map_cons, List.append_assoc]
      rfl

/-- A flag that goes with a clause tells whether the clause has been set. -/
theorem any_isSome {β : Type} (set : Step → Option β) (steps : List Step) :
    (steps.any fun s => (set s).isSome) = (steps.filterMap set).getLast?.isSome := by
  induction steps with
  | nil => rfl
  | cons s rest ih =>
    rw [List.any_cons, ih]
    cases hset : set s with
    | none => rw [List.filterMap_cons_none hset]; rfl
    | some value =>
      rw [List.filterMap_cons_some hset, List.getLast?_cons]
      rfl

/-- Every query is planned from the arguments of its steps kind by kind. -/
theorem planned_eq_recorded (row : String) (steps : List Step) :
    planned row steps = recorded row (steps.filterMap Step.joined?) (steps.filterMap Step.filtered?)
      (steps.filterMap Step.projection?) (steps.filterMap Step.keys?) (steps.filterMap Step.having?)
      (steps.filterMap Step.window?) (steps.filterMap Step.sinkMode?) := by
  have hsources : (run row steps).sourceTypes = (row :: (steps.filterMap Step.joined?).map (·.1)).eraseDups := by
    have hrow : (ofSource row).sourceTypes = [row].eraseDups := rfl
    exact sourceTypes_of_steps hrow steps
  have hjoins : (run row steps).joins = (steps.filterMap Step.joined?).map fun j => .ofExpr j.2 := by
    rw [List.map_filterMap]
    exact list_of_steps (fun d s => congrArg Draft.joins (take_eq d s)) (ofSource row) steps
  have hwheres : (run row steps).wheres = (steps.filterMap Step.filtered?).map .ofExpr := by
    rw [List.map_filterMap]
    exact list_of_steps (fun d s => congrArg Draft.wheres (take_eq d s)) (ofSource row) steps
  have hgrouping : (run row steps).grouping = (steps.filterMap Step.keys?).getLast?.map Selection.ofExpr := by
    rw [run, clause_of_steps (fun d s => congrArg Draft.grouping (take_eq d s)), ← List.map_filterMap, List.getLast?_map]
    exact Option.or_none
  have hhaving : (run row steps).having = (steps.filterMap Step.having?).getLast? := by
    rw [run, clause_of_steps fun d s => congrArg Draft.having (take_eq d s)]
    exact Option.or_none
  have hwindow : (run row steps).window = (steps.filterMap Step.window?).getLast? := by
    rw [run, clause_of_steps fun d s => congrArg Draft.window (take_eq d s)]
    exact Option.or_none
  have hhasGroupBy : (run row steps).hasGroupBy = (steps.filterMap Step.keys?).getLast?.isSome := by
    rw [run, flag_of_steps fun d s => congrArg Draft.hasGroupBy (take_eq d s), any_isSome]
    exact Bool.or_false _
  have hhasHaving : (run row steps).hasHaving = (steps.filterMap Step.having?).getLast?.isSome := by
    rw [run, flag_of_steps fun d s => congrArg Draft.hasHaving (take_eq d s), any_isSome]
    exact Bool.or_false _
  have hsinkMode : (run row steps).sinkMode = (steps.filterMap Step.sinkMode?).getLast?.getD .appendOnly := by
    -- the mode of the sink is there from the start
    have hstep : ∀ d s, some (take d s).sinkMode = s.sinkMode?.or (some d.sinkMode) := by
      intro d s
      rw [take_eq]
      cases s.sinkMode? <;> rfl
    have hlast := @clause_of_steps _ (fun d => some d.sinkMode) _ hstep (ofSource row) steps
    rw [← run] at hlast
    cases hmode : (steps.filterMap Step.sinkMode?).getLast? with
    | none => rw [hmode] at hlast; exact Option.some.inj hlast
    | some mode => rw [hmode] at hlast; exact Option.some.inj hlast
  have hplan : planned row steps = (run row steps).plan := rfl
  rw [hplan, Draft.plan, hsources, hjoins, hwheres, run_projection, hgrouping, hhaving, hwindow, hhasGroupBy, run_hasAggregate,
    hhasHaving, hsinkMode]
  rfl

/-- The order of steps of different kinds does not matter. -/
theorem planned_of_ofKind (row : String) {steps others : List Step} (h : ∀ kind, ofKind kind others = ofKind kind steps) :
    planned row others = planned row steps := by
  have hset : ∀ {β : Type} {kind : Kind} {set : Step → Option β}, (∀ s, s.kind ≠ kind → set s = none) →
      others.filterMap set = steps.filterMap set := by
    intro β kind set hnone
    rw [← filterMap_ofKind hnone others, h kind, filterMap_ofKind hnone steps]
  rw [planned_eq_recorded, planned_eq_recorded, hset fun s => s.ofItsKind.joined?, hset fun s => s.ofItsKind.filtered?,
    hset fun s => s.ofItsKind.projection?, hset fun s => s.ofItsKind.keys?, hset fun s => s.ofItsKind.having?,
    hset fun s => s.ofItsKind.window?, hset fun s => s.ofItsKind.sinkMode?]

/-! ## Sources and joins -/

/-- What a plan holds of the steps of a query. -/
structure Records (row : String) (steps : List Step) (p : Plan) : Prop where
  /-- Each row type once, in the order in which they come first. -/
  sources : p.sourceTypes = (row :: joinedRows steps).eraseDups
  /-- One condition a join. -/
  joins : p.joins = (steps.filterMap Step.joined?).map fun j => .ofExpr j.2
  /-- One condition a filter. -/
  wheres : p.wheres = (steps.filterMap Step.filtered?).map .ofExpr
  /-- What the last projection selects, or all columns. -/
  selection : p.selection = ((projections steps).getLast?.map Selection.ofExpr).getD (.wildcard none)
  grouped : p.hasGroupBy = p.grouping.isSome
  having : p.hasHaving = p.having.isSome

theorem planned_records (row : String) (steps : List Step) : Records row steps (planned row steps) := by
  rw [planned_eq_recorded]
  exact ⟨rfl, rfl, rfl, rfl, (Option.isSome_map ..).symm, rfl⟩

/-- The joins do not fit the sources exactly when a row type is read twice. -/
theorem Records.misjoined_iff {row : String} {steps : List Step} {p : Plan} (h : Records row steps p) :
    p.Misjoined ↔ ¬(row :: joinedRows steps).Nodup := by
  have hjoins : p.joins.length = (joinedRows steps).length := by rw [h.joins, joinedRows, List.length_map, List.length_map]
  rw [← length_eraseDups_eq_iff, ← h.sources, List.length_cons, ← hjoins, Plan.Misjoined, Plan.isJoin]
  constructor
  · rintro ⟨-, hcount⟩ hsame
    exact hcount hsame.symm
  · intro hcount
    -- the row type itself is always read
    have hrow : row ∈ p.sourceTypes := h.sources ▸ List.mem_eraseDups.mpr List.mem_cons_self
    have hsource := List.length_pos_of_mem hrow
    refine ⟨?_, fun hsame => hcount hsame.symm⟩
    rw [Bool.or_eq_true, decide_eq_true_eq, decide_eq_true_eq]
    omega

/-- Without repetitions, the sources are the row types as they come. -/
theorem Records.sources_of_nodup {row : String} {steps : List Step} {p : Plan} (h : Records row steps p)
    (hnodup : (row :: joinedRows steps).Nodup) : p.sourceTypes = row :: joinedRows steps := by
  rw [h.sources, eraseDups_of_nodup hnodup]

/-- What a query records. Its plan depends on the steps of each kind only, not on how the kinds are mixed, and holds the row types
once each, the conditions of its joins and filters in order, what the last projection selects, and flags that tell whether there are
grouping keys and a condition on groups. The joins fit the sources unless a row type is read twice; then the plan is refused.
Otherwise the aliases count the row types as they come: each goes by the alias of its position, and its table is brought in there. -/
theorem records_by_kind (row : String) (steps : List Step) :
    (∀ others, (∀ kind, ofKind kind others = ofKind kind steps) → planned row others = planned row steps) ∧
      Records row steps (planned row steps) ∧
      ((planned row steps).Misjoined ↔ ¬(row :: joinedRows steps).Nodup) ∧
      ((planned row steps).Misjoined → ∀ functions, ∃ f,
        (planned row steps).selectSql functions = .error f ∧ f.kind = .dialectConstraint) ∧
      ((row :: joinedRows steps).Nodup → ∀ i source, (row :: joinedRows steps)[i]? = some source →
        (planned row steps).sourceTypes[i]? = some source ∧
        (∀ name, (planned row steps).aliases.resolve ⟨name, some source⟩ = .ok (tableAlias i)) ∧
        ∀ functions text, (planned row steps).selectSql functions = .ok text → ∃ s, (planned row steps).HasParts functions s ∧
          text = s.text ∧ ∃ clause, s.tables[i]? = some clause ∧ (planned row steps).Introduces functions i clause) := by
  have hrecords := planned_records row steps
  refine ⟨fun others h => planned_of_ofKind row h, hrecords, hrecords.misjoined_iff,
    fun hmisjoined functions => Plan.misjoined_refused hmisjoined functions, fun hnodup i source hsource => ?_⟩
  have hsources := hrecords.sources_of_nodup hnodup
  have hat : (planned row steps).sourceTypes[i]? = some source := by rw [hsources, hsource]
  have hlast : IsLast source (planned row steps).sourceTypes i := isLast_of_nodup (hsources ▸ hnodup) hat
  refine ⟨hat, fun name => (Aliases.resolve_eq_ok_iff rfl).mpr ⟨i, hlast, rfl⟩, fun functions text htext => ?_⟩
  have hlegal := Plan.legal_of_selectSql htext
  obtain ⟨s, hparts, rfl⟩ := Plan.selectSql_parts htext
  obtain ⟨hcount, hclauses⟩ := hparts.introduces hlegal
  obtain ⟨hi, -⟩ := List.getElem?_eq_some_iff.mp hat
  have hclause : i < s.tables.length := by rw [hcount, hlegal.length_tableNames_eq]; exact hi
  exact ⟨s, hparts, rfl, s.tables[i], List.getElem?_eq_getElem hclause, hclauses i _ (List.getElem?_eq_getElem hclause)⟩

/-- Orders above a limit with the rows of another type, the join first. -/
def largeWith (other : String) : List Step :=
  [.join other (Plan.sameKey "Order" other), .filter (.binary .gt amount (.literal (.integer 100))), .select amount]

/-- Filtered last or first, orders with customers are one plan, in which the customers go by the second alias; orders with orders
are refused. -/
theorem large_with_customers :
    planned "Order" [.select amount, .filter (.binary .gt amount (.literal (.integer 100))),
        .join "Customer" (Plan.sameKey "Order" "Customer")] = planned "Order" (largeWith "Customer") ∧
      (planned "Order" (largeWith "Customer")).aliases.resolve ⟨"c", some "Customer"⟩ = .ok "t1" ∧
      (∃ s : SelectParts, s.text = "SELECT t0.`amount` AS `value` FROM `order` AS t0 JOIN `customer` AS t1" ++
          " ON (t0.`key` = t1.`key`) WHERE (t0.`amount` > 100)" ∧
        ∃ clause, s.tables[1]? = some clause ∧ (planned "Order" (largeWith "Customer")).Introduces .standard 1 clause) ∧
      ∃ f, (planned "Order" (largeWith "Order")).selectSql .standard = .error f ∧ f.kind = .dialectConstraint := by
  have htext : (planned "Order" (largeWith "Customer")).selectSql .standard =
      .ok ("SELECT t0.`amount` AS `value` FROM `order` AS t0 JOIN `customer` AS t1" ++
        " ON (t0.`key` = t1.`key`) WHERE (t0.`amount` > 100)") := eq_ok_of_toOption (by decide +kernel)
  obtain ⟨hkinds, -, -, -, hsources⟩ := records_by_kind "Order" (largeWith "Customer")
  obtain ⟨-, -, hmisjoined, hrefused, -⟩ := records_by_kind "Order" (largeWith "Order")
  obtain ⟨-, halias, hclauses⟩ := hsources (by decide) 1 "Customer" rfl
  obtain ⟨s, -, hs, hclause⟩ := hclauses .standard _ htext
  refine ⟨hkinds _ fun kind => ?_, halias "c", ⟨s, hs.symm, hclause⟩, hrefused (hmisjoined.mpr (by decide)) .standard⟩
  cases kind <;> rfl

end Query

end FlinkSql
