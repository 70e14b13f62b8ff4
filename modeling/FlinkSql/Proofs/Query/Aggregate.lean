import FlinkSql.Expr.Build
import FlinkSql.Proofs.Query.Run
import FlinkSql.Proofs.Statement.Writing

/-!
# The mark of an aggregating query

A query is marked as aggregating by every projection that calls an aggregate, and no step takes the mark away. The projection that
counts is the last one. So the mark is about the projection unless an earlier projection aggregates and the last one does not; then
the plan is grouped by its window, and may have a condition on groups, as if it aggregated.
-/

namespace FlinkSql

namespace Plan

/-- Whether the projection calls an aggregate. -/
def aggregates (p : Plan) : Bool := p.projection.any Expr.containsAggregate

/-- A condition on groups that is neither grouped nor marked breaks a rule: no rule before it is about expressions. -/
theorem fault?_of_having {p : Plan} (hhaving : p.having.isSome) (hgroups : p.hasGroupBy = false)
    (haggregate : p.hasAggregate = false) : ∃ cause, p.fault? = some (.constraint cause) := by
  have hfault : p.having.isSome ∧ !p.hasGroupBy ∧ !p.hasAggregate := by
    rw [hgroups, haggregate]
    exact ⟨hhaving, rfl, rfl⟩
  unfold fault?
  simp only [if_pos hfault]
  split_ifs <;> exact ⟨_, rfl⟩

/-- A condition on groups without groups is refused. -/
theorem having_refused {functions : Registry} {p : Plan} (hhaving : p.having.isSome) (hgroups : p.hasGroupBy = false)
    (haggregate : p.hasAggregate = false) : ∃ f, p.selectSql functions = .error f ∧ f.kind = .dialectConstraint := by
  obtain ⟨cause, hcause⟩ := fault?_of_having hhaving hgroups haggregate
  exact ⟨.constraint cause, selectSql_of_fault hcause functions, rfl⟩

/-- Without grouping keys, the mark decides whether a plan with a window is grouped. -/
theorem groupBySql_of_window {functions : Registry} {p : Plan} (hwindow : p.window.isSome) (hgrouping : p.grouping = none) :
    p.groupBySql functions = .ok (if p.hasAggregate then " GROUP BY window_start, window_end" else "") := by
  have hkeys : p.groupKeys functions = .ok (if p.hasAggregate then some windowKeys else none) := by
    unfold groupKeys groupKeys.withBounds
    rw [hgrouping]
    simp only [hwindow, true_and, if_true]
    rfl
  rw [groupBySql, hkeys]
  cases p.hasAggregate with
  | true => rfl
  | false => rfl

end Plan

namespace Query

/-- The plan of a query. -/
abbrev planned (row : String) (steps : List Step) : Plan := (run row steps).plan

/-- The mark is about the projection when that aggregates, or when no projection of the query does. -/
theorem hasAggregate_eq_iff (row : String) (steps : List Step) :
    (planned row steps).hasAggregate = (planned row steps).aggregates ↔
      (planned row steps).aggregates = true ∨ ∀ e ∈ projections steps, e.containsAggregate = false := by
  have hmark : (planned row steps).hasAggregate = (projections steps).any Expr.containsAggregate := run_hasAggregate row steps
  have hprojection : (planned row steps).projection = (projections steps).getLast? := run_projection row steps
  have hlast : (planned row steps).aggregates = true → ∃ e ∈ projections steps, e.containsAggregate = true := by
    rw [Plan.aggregates, hprojection]
    cases hlast : (projections steps).getLast? with
    | none => exact nofun
    | some e => exact fun haggregates => ⟨e, List.mem_of_getLast? hlast, haggregates⟩
  rw [hmark]
  constructor
  · intro hsame
    cases haggregates : (planned row steps).aggregates with
    | true => exact Or.inl rfl
    | false =>
      rw [haggregates, List.any_eq_false] at hsame
      exact Or.inr fun e he => Bool.eq_false_iff.mpr (hsame e he)
  · rintro (haggregates | hnone)
    · rw [haggregates, List.any_eq_true]
      exact hlast haggregates
    · have hfalse : (planned row steps).aggregates = false := by
        refine Bool.eq_false_iff.mpr fun haggregates => ?_
        obtain ⟨e, he, htrue⟩ := hlast haggregates
        exact Bool.false_ne_true ((hnone e he).symm.trans htrue)
      rw [hfalse, List.any_eq_false]
      exact fun e he => Bool.eq_false_iff.mp (hnone e he)

/-- What the mark of a query tells. It is set when any of its projections calls an aggregate, while the plan projects the last one;
so it is about the projection of the plan when that aggregates or when none of them does, and only then. Without grouping keys it
decides whether a plan with a window is grouped by the bounds of the window, and where it is not set a condition on groups is
refused. -/
theorem mark_is_about_projection_iff (row : String) (steps : List Step) :
    (planned row steps).projection = (projections steps).getLast? ∧
      ((planned row steps).hasAggregate = true ↔ ∃ e ∈ projections steps, e.containsAggregate = true) ∧
      ((planned row steps).hasAggregate = (planned row steps).aggregates ↔
        (planned row steps).aggregates = true ∨ ∀ e ∈ projections steps, e.containsAggregate = false) ∧
      ∀ functions, (planned row steps).window.isSome → (∀ keys, .groupBy keys ∉ steps) →
        (planned row steps).groupBySql functions =
            .ok (if (planned row steps).hasAggregate then " GROUP BY window_start, window_end" else "") ∧
          ((planned row steps).hasAggregate = false → (planned row steps).having.isSome →
            ∃ f, (planned row steps).selectSql functions = .error f ∧ f.kind = .dialectConstraint) := by
  have hmark : (planned row steps).hasAggregate = (projections steps).any Expr.containsAggregate := run_hasAggregate row steps
  refine ⟨run_projection row steps, by rw [hmark, List.any_eq_true], hasAggregate_eq_iff row steps, ?_⟩
  intro functions hwindow hkeys
  obtain ⟨hgrouping, hgroups⟩ := run_ungrouped row hkeys
  exact ⟨Plan.groupBySql_of_window hwindow hgrouping, fun hunmarked hhaving => Plan.having_refused hhaving hgroups hunmarked⟩

/-- Orders by the minute, in the window of `Plan.minuteCounts`, with two projections one after the other. -/
def minuteSteps (first last : Expr) : List Step :=
  [.select first, .select last, .window (Plan.minuteCounts.window.get rfl)]

/-- The amount of an order. -/
def amount : Expr := .column ⟨"o", some "Order"⟩ "Amount"

/-- Orders that are counted in the end are grouped by the minute. -/
theorem counted_last_is_grouped :
    (planned "Order" (minuteSteps amount Aggregate.count)).hasAggregate =
        (planned "Order" (minuteSteps amount Aggregate.count)).aggregates ∧
      (planned "Order" (minuteSteps amount Aggregate.count)).groupBySql .standard =
        .ok " GROUP BY window_start, window_end" := by
  have hkeys : ∀ keys, .groupBy keys ∉ minuteSteps amount Aggregate.count := by
    intro keys
    simp [minuteSteps]
  have haggregates : (planned "Order" (minuteSteps amount Aggregate.count)).aggregates = true := by decide
  obtain ⟨-, -, hmark, hgroups⟩ := mark_is_about_projection_iff "Order" (minuteSteps amount Aggregate.count)
  have hsame := hmark.mpr (Or.inl haggregates)
  refine ⟨hsame, ?_⟩
  rw [(hgroups .standard rfl hkeys).1, hsame, haggregates]
  rfl

/-- Orders that are counted first and then projected as they are: the mark stays, the plan is grouped by the minute, and a condition
on groups is let through. -/
theorem counted_first_stays_marked :
    (planned "Order" (minuteSteps Aggregate.count amount)).aggregates = false ∧
      (planned "Order" (minuteSteps Aggregate.count amount)).hasAggregate = true ∧
      (planned "Order" (minuteSteps Aggregate.count amount)).groupBySql .standard = .ok " GROUP BY window_start, window_end" ∧
      ∃ text, (planned "Order" (minuteSteps Aggregate.count amount ++ [.having (.literal (.boolean true))])).selectSql .standard =
        .ok text := by
  have hmark : (planned "Order" (minuteSteps Aggregate.count amount)).hasAggregate = true := by decide
  have hgroups : (planned "Order" (minuteSteps Aggregate.count amount)).groupBySql .standard =
      .ok (if (planned "Order" (minuteSteps Aggregate.count amount)).hasAggregate then " GROUP BY window_start, window_end" else "") :=
    Plan.groupBySql_of_window rfl rfl
  rw [hmark] at hgroups
  have hhaving : ((planned "Order" (minuteSteps Aggregate.count amount ++ [.having (.literal (.boolean true))])).selectSql
      .standard).toOption.isSome := by decide
  obtain ⟨text, htext⟩ := Option.isSome_iff_exists.mp hhaving
  exact ⟨by decide, hmark, hgroups, text, eq_ok_of_toOption htext⟩

end Query

end FlinkSql
