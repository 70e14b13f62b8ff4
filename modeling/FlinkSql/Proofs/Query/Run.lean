import FlinkSql.Query.Fluent
import Mathlib.Data.List.Basic

/-!
# What the steps of a query leave

Each step sets some clauses of the draft and leaves the others. For a clause that a later step replaces, the last step that sets it
counts; a flag that no step takes away tells whether any step has set it.
-/

namespace FlinkSql

/-- Reading a row type changes nothing but the row types. -/
theorem Draft.addSource_eq (d : Draft) (row : String) :
    d.addSource row = { d with sourceTypes := if row ∈ d.sourceTypes then d.sourceTypes else d.sourceTypes ++ [row] } := by
  unfold addSource
  split <;> rfl

namespace Query

/-! ## One step -/

theorem take_join (d : Draft) (row : String) (on : Expr) :
    take d (.join row on) = { d.addSource row with joins := d.joins ++ [.ofExpr on] } := by
  have htake : take d (.join row on) = { d.addSource row with joins := (d.addSource row).joins ++ [.ofExpr on] } := rfl
  rw [htake, Draft.addSource_eq]

theorem take_select (d : Draft) (e : Expr) :
    take d (.select e) = { d with projection := some e, hasAggregate := e.containsAggregate || d.hasAggregate } := by
  have htake : take d (.select e) =
      (if e.containsAggregate then [.markAggregate, .setSelect e] else [.setSelect e]).foldl Draft.take d := rfl
  rw [htake]
  cases e.containsAggregate with
  | true => rfl
  | false => rfl

/-- The row type that a step joins, with the condition. -/
@[simp] def Step.joined? : Step → Option (String × Expr)
  | .join row on => some (row, on)
  | _ => none

/-- The condition on rows that a step adds. -/
@[simp] def Step.filtered? : Step → Option Expr
  | .filter condition => some condition
  | _ => none

/-- The projection that a step sets. -/
@[simp] def Step.projection? : Step → Option Expr
  | .select projection => some projection
  | _ => none

/-- The grouping keys that a step sets. -/
@[simp] def Step.keys? : Step → Option Expr
  | .groupBy keys => some keys
  | _ => none

/-- The condition on groups that a step sets. -/
@[simp] def Step.having? : Step → Option Expr
  | .having condition => some condition
  | _ => none

/-- The window that a step sets. -/
@[simp] def Step.window? : Step → Option Window
  | .window spec => some spec
  | _ => none

/-- The mode of the sink that a step sets. -/
@[simp] def Step.sinkMode? : Step → Option SinkMode
  | .upsert => some .upsert
  | _ => none

/-- What a step does to each clause and to each flag. -/
theorem take_eq (d : Draft) (s : Step) : take d s =
    { sourceTypes := s.joined?.elim d.sourceTypes fun j => (d.addSource j.1).sourceTypes
      joins := d.joins ++ (s.joined?.map fun j => Predicate.ofExpr j.2).toList
      wheres := d.wheres ++ (s.filtered?.map Predicate.ofExpr).toList
      projection := s.projection?.or d.projection
      grouping := (s.keys?.map Selection.ofExpr).or d.grouping
      having := s.having?.or d.having
      window := s.window?.or d.window
      hasGroupBy := s.keys?.isSome || d.hasGroupBy
      hasAggregate := s.projection?.any Expr.containsAggregate || d.hasAggregate
      hasHaving := s.having?.isSome || d.hasHaving
      sinkMode := s.sinkMode?.getD d.sinkMode } := by
  cases s with
  | join row on => simp [take_join, Draft.addSource_eq]
  | select e => simp [take_select]
  | _ => simp [take, Step.draftSteps, Draft.take]

/-! ## All steps -/

/-- A clause that some steps set and the others leave is what the last of them has set. -/
theorem clause_of_steps {β : Type} {clause : Draft → Option β} {set : Step → Option β}
    (h : ∀ d s, clause (take d s) = (set s).or (clause d)) (d : Draft) (steps : List Step) :
    clause (steps.foldl take d) = (steps.filterMap set).getLast?.or (clause d) := by
  induction steps generalizing d with
  | nil => rfl
  | cons s rest ih =>
    rw [List.foldl_cons, ih, h]
    cases hset : set s with
    | none => rw [List.filterMap_cons_none hset, Option.none_or]
    | some value =>
      rw [List.filterMap_cons_some hset, List.getLast?_cons]
      cases (rest.filterMap set).getLast? <;> rfl

/-- A clause to which some steps add and that the others leave is what all of them have added, in order. -/
theorem list_of_steps {β : Type} {clause : Draft → List β} {add : Step → Option β}
    (h : ∀ d s, clause (take d s) = clause d ++ (add s).toList) (d : Draft) (steps : List Step) :
    clause (steps.foldl take d) = clause d ++ steps.filterMap add := by
  induction steps generalizing d with
  | nil => exact (List.append_nil _).symm
  | cons s rest ih =>
    rw [List.foldl_cons, ih, h, List.append_assoc]
    cases hadd : add s with
    | none => rw [List.filterMap_cons_none hadd]; rfl
    | some value => rw [List.filterMap_cons_some hadd]; rfl

/-- A flag that some steps set and no step takes away tells whether one of them has been taken. -/
theorem flag_of_steps {flag : Draft → Bool} {sets : Step → Bool} (h : ∀ d s, flag (take d s) = (sets s || flag d)) (d : Draft)
    (steps : List Step) : flag (steps.foldl take d) = (steps.any sets || flag d) := by
  induction steps generalizing d with
  | nil => rfl
  | cons s rest ih => rw [List.foldl_cons, ih, h, List.any_cons, ← Bool.or_assoc, Bool.or_comm (rest.any sets)]

/-- The projections of a query, in order. -/
def projections (steps : List Step) : List Expr := steps.filterMap Step.projection?

/-- The query projects what was selected last. -/
theorem run_projection (row : String) (steps : List Step) : (run row steps).projection = (projections steps).getLast? := by
  have hrun := clause_of_steps (fun d s => congrArg Draft.projection (take_eq d s)) (ofSource row) steps
  rw [run, hrun]
  exact Option.or_none

/-- The mark tells whether any projection calls an aggregate. -/
theorem run_hasAggregate (row : String) (steps : List Step) :
    (run row steps).hasAggregate = (projections steps).any Expr.containsAggregate := by
  have hrun := flag_of_steps (fun d s => congrArg Draft.hasAggregate (take_eq d s)) (ofSource row) steps
  have hnone : (ofSource row).hasAggregate = false := rfl
  rw [run, hrun, hnone, Bool.or_false, projections, List.any_filterMap]
  refine congrArg (List.any steps) (funext fun s => ?_)
  cases s.projection? <;> rfl

/-- A query without grouping keys is not grouped. -/
theorem run_ungrouped (row : String) {steps : List Step} (h : ∀ keys, .groupBy keys ∉ steps) :
    (run row steps).grouping = none ∧ (run row steps).hasGroupBy = false := by
  have hkeys : ∀ s ∈ steps, s.keys? = none := by
    intro s hs
    cases s with
    | groupBy keys => exact absurd hs (h keys)
    | _ => rfl
  have hset : steps.filterMap (fun s => s.keys?.map Selection.ofExpr) = [] :=
    List.filterMap_eq_nil_iff.mpr fun s hs => by rw [hkeys s hs]; rfl
  have hmark : (steps.any fun s => s.keys?.isSome) = false :=
    List.any_eq_false.mpr fun s hs => by rw [hkeys s hs]; exact Bool.false_ne_true
  have hgrouping := clause_of_steps (fun d s => congrArg Draft.grouping (take_eq d s)) (ofSource row) steps
  have hflag := flag_of_steps (fun d s => congrArg Draft.hasGroupBy (take_eq d s)) (ofSource row) steps
  rw [hset] at hgrouping
  rw [hmark] at hflag
  exact ⟨hgrouping, hflag⟩

end Query

end FlinkSql
