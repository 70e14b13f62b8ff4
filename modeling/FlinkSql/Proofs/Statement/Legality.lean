import FlinkSql.Statement.Legality
import Mathlib.Data.List.Nodup

/-!
# Legal plans

`Plan.Legal` says what Flink demands of the structure of a plan, rule by rule and without an order. `Plan.fault?`, which checks
the rules in turn and reports the first that is broken, reports none exactly for the legal plans.
-/

namespace FlinkSql.Plan

/-- The normalized labels of the projected items. -/
def labels (items : List Item) : List String := items.map fun item => Name.column item.label

/-- A plan that keeps to the rules. -/
structure Legal (p : Plan) : Prop where
  source : 1 ≤ p.sourceTypes.length
  /-- Either no topics or one a source. -/
  topics : p.sourceTopics.length = 0 ∨ p.sourceTopics.length = p.sourceTypes.length
  /-- Where there is a join, each source but the first has its condition. -/
  joins : 1 < p.sourceTypes.length ∨ 0 < p.joins.length → p.joins.length = p.sourceTypes.length - 1
  /-- A window excludes joins. -/
  window : p.window.isSome → p.joins.length = 0
  /-- A hopping window has a slide. -/
  slide : ∀ w, p.window = some w → w.kind = .hop → w.slide.isSome
  /-- A condition on groups comes with groups. -/
  having : p.having.isSome → p.hasGroupBy = true ∨ p.hasAggregate = true
  /-- The grouping keys are no whole row. -/
  grouping : ∀ keys, p.grouping = some keys → keys.isWildcard = false
  /-- No two projected items have the same normalized label. -/
  labels : (labels p.selection.itemList).Nodup

/-! ## The rules one by one -/

/-- One step of a chain of checks: it reports nothing when its own check passes and the rest reports nothing. -/
theorem check_eq_none_iff {α : Type} {c : Prop} [Decidable c] {fault : α} {rest : Option α} :
    (if c then some fault else rest) = none ↔ ¬c ∧ rest = none := by
  by_cases hc : c
  · rw [if_pos hc]
    exact ⟨nofun, fun ⟨h, _⟩ => absurd hc h⟩
  · rw [if_neg hc]
    exact ⟨fun h => ⟨hc, h⟩, And.right⟩

/-- No label collides when no two are the same and none has been seen before. -/
theorem collision?_eq_none_iff {seen : List String} {items : List Item} :
    collision? seen items = none ↔ (labels items).Nodup ∧ ∀ name ∈ labels items, name ∉ seen := by
  induction items generalizing seen with
  | nil => exact ⟨fun _ => ⟨List.nodup_nil, fun _ h => absurd h List.not_mem_nil⟩, fun _ => rfl⟩
  | cons item rest ih =>
    have hlabels : labels (item :: rest) = Name.column item.label :: labels rest := rfl
    rw [collision?, check_eq_none_iff, ih, hlabels, List.nodup_cons, List.forall_mem_cons]
    constructor
    · rintro ⟨hhead, hnodup, hrest⟩
      have hnew : Name.column item.label ∉ labels rest := fun h => hrest _ h List.mem_cons_self
      exact ⟨⟨hnew, hnodup⟩, hhead, fun name h hseen => hrest name h (List.mem_cons_of_mem _ hseen)⟩
    · rintro ⟨⟨hnew, hnodup⟩, hhead, hrest⟩
      refine ⟨hhead, hnodup, fun name h hseen => ?_⟩
      rcases List.mem_cons.mp hseen with rfl | hseen
      · exact hnew h
      · exact hrest name h hseen

theorem labelFault?_eq_none_iff {p : Plan} : p.labelFault? = none ↔ (labels p.selection.itemList).Nodup := by
  rw [labelFault?, Option.map_eq_none_iff, collision?_eq_none_iff]
  exact ⟨And.left, fun h => ⟨h, fun _ _ => List.not_mem_nil⟩⟩

theorem slideMissing_eq_false_iff {p : Plan} :
    ¬p.slideMissing = true ↔ ∀ w, p.window = some w → w.kind = .hop → w.slide.isSome := by
  rw [slideMissing]
  cases hwindow : p.window with
  | none => exact ⟨fun _ _ hw => absurd hw nofun, fun _ => nofun⟩
  | some w =>
    rw [Option.any_some, Bool.and_eq_true, beq_iff_eq, Option.isNone_iff_eq_none]
    constructor
    · rintro h _ ⟨⟩ hhop
      exact Option.isSome_iff_ne_none.mpr fun hnone => h ⟨hhop, hnone⟩
    · rintro h ⟨hhop, hnone⟩
      exact Option.isSome_iff_ne_none.mp (h w rfl hhop) hnone

/-! ## All of them -/

/-- The check finds no fault in a plan exactly when it is legal. -/
theorem fault?_eq_none_iff {p : Plan} : p.fault? = none ↔ p.Legal := by
  unfold fault?
  simp only [check_eq_none_iff, slideMissing_eq_false_iff, labelFault?_eq_none_iff]
  constructor
  · rintro ⟨hsource, htopics, hwindow, hjoins, hslide, hhaving, hgrouping, hlabels⟩
    have hcount : 1 ≤ p.sourceTypes.length := Nat.one_le_iff_ne_zero.mpr hsource
    refine ⟨hcount, ?_, ?_, ?_, hslide, ?_, ?_, hlabels⟩
    · omega
    · intro hjoin
      have hisJoin : p.isJoin = true := by
        rw [isJoin, Bool.or_eq_true, decide_eq_true_eq, decide_eq_true_eq]
        exact hjoin
      by_contra hne
      exact hjoins ⟨hisJoin, by omega⟩
    · intro hsome
      by_contra hne
      exact hwindow ⟨hsome, hne⟩
    · intro hsome
      by_contra hne
      rw [not_or, Bool.not_eq_true, Bool.not_eq_true] at hne
      exact hhaving (by simp [hsome, hne])
    · intro keys hkeys
      rw [hkeys, Option.any_some] at hgrouping
      exact Bool.eq_false_iff.mpr hgrouping
  · intro h
    refine ⟨Nat.one_le_iff_ne_zero.mp h.source, ?_, ?_, ?_, h.slide, ?_, ?_, h.labels⟩
    · rintro ⟨hsome, hne⟩
      rcases h.topics with h | h
      · exact hsome h
      · exact hne h
    · rintro ⟨hsome, hne⟩
      exact hne (h.window hsome)
    · rintro ⟨hisJoin, hne⟩
      rw [isJoin, Bool.or_eq_true, decide_eq_true_eq, decide_eq_true_eq] at hisJoin
      have hcount := h.joins hisJoin
      have hsource := h.source
      omega
    · rintro ⟨hsome, hgroups, haggregate⟩
      rcases h.having hsome with h | h
      · simp [h] at hgroups
      · simp [h] at haggregate
    · cases hkeys : p.grouping with
      | none => exact nofun
      | some keys =>
        rw [Option.any_some, h.grouping keys hkeys]
        exact nofun

/-- The check passes exactly for the legal plans. -/
theorem check_eq_ok_iff {p : Plan} : p.check = .ok () ↔ p.Legal := by
  rw [← fault?_eq_none_iff, check]
  cases p.fault? with
  | none => exact ⟨fun _ => rfl, fun _ => rfl⟩
  | some fault => exact ⟨nofun, nofun⟩

namespace Legal

variable {p : Plan}

/-- A legal plan reads from some table. -/
theorem tableNames_ne_nil (h : p.Legal) : p.tableNames ≠ [] := by
  have hsource := h.source
  intro hnil
  rw [tableNames] at hnil
  split at hnil
  · rw [hnil] at hsource
    exact absurd hsource (by decide)
  · rename_i hempty
    exact hempty (List.isEmpty_iff.mpr hnil)

/-- A legal plan with a window has one source. -/
theorem one_source (h : p.Legal) (hwindow : p.window.isSome) : p.sourceTypes.length = 1 := by
  have hjoins := h.window hwindow
  have hsource := h.source
  rcases Nat.eq_or_lt_of_le hsource with h1 | hmany
  · exact h1.symm
  · have hcount := h.joins (Or.inl hmany)
    omega

end Legal

end FlinkSql.Plan
