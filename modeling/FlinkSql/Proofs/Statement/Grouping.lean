import FlinkSql.Proofs.Expr.WindowBound
import FlinkSql.Proofs.Statement.Layout
import FlinkSql.Proofs.Statement.Writing

/-!
# The keys by which a plan groups

A plan without a window groups by the keys of the caller. With a window it groups if the caller groups or the projection aggregates, and
then by the bounds of the window too: a bound stands behind the keys of the caller unless one of these is its marker. So each bound is
among the keys, and none that is added repeats a key of the caller.
-/

namespace FlinkSql

namespace Plan

variable {p : Plan} {text : String} {exprs : List Expr} {keys : List String}

/-! ## Keys and bounds -/

/-- What the caller groups by. -/
def groupExprs (p : Plan) : List Expr := p.grouping.toList.flatMap fun selection => selection.itemList.map (·.expr)

/-- The bounds of the window whose markers are not among expressions. -/
def missingBounds (exprs : List Expr) : List String :=
  (windowBounds.filter fun bound => !exprs.any (Expr.isMarker bound.1)).map (·.2)

/-- Keys as a clause. -/
def groupClause (keys : List String) : String := " GROUP BY " ++ ", ".intercalate keys

/-- A key is written for an expression: it is its SQL, and the name of a bound only where that is the marker of the bound. -/
def KeyOf (aliases : Aliases) (e : Expr) (key : String) : Prop :=
  e.sql .standard aliases = .ok key ∧ ∀ bound ∈ windowBounds, key = bound.2 ↔ e.isMarker bound.1 = true

/-- The keys are written in the order of the expressions. -/
theorem keysOf_of_mapM {aliases : Aliases} (h : exprs.mapM (Expr.sql .standard aliases) = .ok keys) :
    List.Forall₂ (KeyOf aliases) exprs keys :=
  (forall₂_of_mapM_eq_ok h).imp fun _ _ hsql => ⟨hsql, fun _ hbound => Expr.sql_eq_bound_iff hsql hbound⟩

/-- A bound is among the keys exactly if its marker is among the expressions. -/
theorem bound_mem_iff {aliases : Aliases} (h : List.Forall₂ (KeyOf aliases) exprs keys) {bound : String × String}
    (hbound : bound ∈ windowBounds) : bound.2 ∈ keys ↔ exprs.any (Expr.isMarker bound.1) = true := by
  induction h with
  | nil => simp
  | cons hkey _ ih => rw [List.mem_cons, eq_comm, hkey.2 bound hbound, ih, List.any_cons, Bool.or_eq_true]

/-- A bound is missing exactly if it is not among the keys in SQL. -/
theorem mem_missingBounds_iff {aliases : Aliases} (h : List.Forall₂ (KeyOf aliases) exprs keys) {name : String} :
    name ∈ missingBounds exprs ↔ name ∈ windowKeys ∧ name ∉ keys := by
  have hnames : windowKeys = windowBounds.map (·.2) := rfl
  simp only [missingBounds, hnames, List.mem_map, List.mem_filter, Bool.not_eq_true']
  constructor
  · rintro ⟨bound, ⟨hbound, hmissing⟩, rfl⟩
    refine ⟨⟨bound, hbound, rfl⟩, fun hmem => ?_⟩
    exact Bool.false_ne_true (hmissing.symm.trans ((bound_mem_iff h hbound).mp hmem))
  · rintro ⟨⟨bound, hbound, rfl⟩, hmissing⟩
    exact ⟨bound, ⟨hbound, Bool.eq_false_iff.mpr fun hany => hmissing ((bound_mem_iff h hbound).mpr hany)⟩, rfl⟩

/-- With a window, the bounds that are missing stand behind the keys. -/
theorem withBounds_eq {aliases : Aliases} (h : List.Forall₂ (KeyOf aliases) exprs keys) :
    groupKeys.withBounds p keys = if p.window.isSome then keys ++ missingBounds exprs else keys := by
  have hmissing : windowKeys.filter (fun key => !keys.contains key) = missingBounds exprs := by
    have hnames : windowKeys = windowBounds.map (·.2) := rfl
    rw [hnames, List.filter_map, missingBounds]
    refine congrArg _ (List.filter_congr fun bound hbound => ?_)
    rw [Function.comp_apply, Bool.eq_iff_iff.mpr (List.contains_iff_mem.trans (bound_mem_iff h hbound))]
  rw [groupKeys.withBounds, hmissing]

/-! ## The clause -/

/-- The clause of a plan in which the caller groups. -/
theorem groupBySql_of_grouping {selection : Selection} {groups : String} (hgrouping : p.grouping = some selection)
    (h : p.groupBySql .standard = .ok groups) :
    ∃ keys, List.Forall₂ (KeyOf p.aliases) p.groupExprs keys ∧ groups = groupClause (groupKeys.withBounds p keys) := by
  obtain ⟨keys, hkeys, h⟩ := bind_eq_ok.mp h
  rw [groupKeys, hgrouping] at hkeys
  obtain ⟨texts, htexts, hkeys⟩ := bind_eq_ok.mp hkeys
  cases hkeys
  cases h
  have hexprs : p.groupExprs = selection.itemList.map (·.expr) := by
    rw [groupExprs, hgrouping]
    exact List.flatMap_singleton _ _
  refine ⟨texts, keysOf_of_mapM ?_, rfl⟩
  rw [hexprs, List.mapM_map]
  exact htexts

/-- The clause of a plan in which the caller does not group. -/
theorem groupBySql_of_no_grouping (hgrouping : p.grouping = none) :
    p.groupBySql .standard = .ok (if p.window.isSome ∧ p.hasAggregate then groupClause (groupKeys.withBounds p []) else "") := by
  rw [groupBySql, groupKeys, hgrouping]
  split_ifs <;> rfl

/-- The clause by which a plan groups, for the keys that the caller names. -/
structure Groups (p : Plan) (keys : List String) (groups : String) : Prop where
  /-- Without a window: the keys of the caller, if the caller groups. -/
  unwindowed : p.window = none → groups = if p.grouping.isSome then groupClause keys else ""
  /-- With a window: the keys of the caller, and the bounds that are missing. -/
  windowed : p.window.isSome → p.grouping.isSome ∨ p.hasAggregate = true → groups = groupClause (keys ++ missingBounds p.groupExprs)
  /-- With a window, if nothing groups. -/
  ungrouped : p.window.isSome → p.grouping = none → p.hasAggregate = false → groups = ""

/-- Where the grouping keys are written, they are keys of the expressions, and of the missing bounds behind them. -/
theorem exists_groups {groups : String} (h : p.groupBySql .standard = .ok groups) :
    ∃ keys, List.Forall₂ (KeyOf p.aliases) p.groupExprs keys ∧ p.Groups keys groups := by
  cases hgrouping : p.grouping with
  | some selection =>
    obtain ⟨keys, hkeys, rfl⟩ := groupBySql_of_grouping hgrouping h
    have hbounds := withBounds_eq (p := p) hkeys
    refine ⟨keys, hkeys, ⟨fun hwindow => ?_, fun hwindow _ => ?_, fun _ hnone => ?_⟩⟩
    · rw [hbounds, hwindow, hgrouping]
      rfl
    · rw [hbounds, if_pos hwindow]
    · cases hgrouping.symm.trans hnone
  | none =>
    have hexprs : p.groupExprs = [] := by
      rw [groupExprs, hgrouping]
      rfl
    have hkeys : List.Forall₂ (KeyOf p.aliases) p.groupExprs [] := hexprs ▸ .nil
    rw [groupBySql_of_no_grouping hgrouping] at h
    cases h
    have hbounds := withBounds_eq (p := p) hkeys
    refine ⟨[], hkeys, ⟨fun hwindow => ?_, fun hwindow hgroups => ?_, fun hwindow _ hplain => ?_⟩⟩
    · rw [if_neg (by simp [hwindow]), if_neg (by simp [hgrouping])]
    · have haggregate : p.hasAggregate = true := hgroups.resolve_left (by simp [hgrouping])
      rw [if_pos ⟨hwindow, haggregate⟩, hbounds, if_pos hwindow]
    · rw [if_neg (by simp [hplain])]

/-- A plan that is written without a window groups by the keys of the caller, and not at all if the caller does not. With a window it
groups if the caller does or the projection aggregates: by the keys of the caller, and then by the bounds of the window whose markers are
not among them. A key is the name of a bound only as the call of its marker; so both bounds are among the keys, and none that is added is
there already. -/
theorem groups_by_window_bounds (h : p.selectSql .standard = .ok text) :
    ∃ s keys, p.HasParts .standard s ∧ text = s.text ∧ List.Forall₂ (KeyOf p.aliases) p.groupExprs keys ∧ p.Groups keys s.groups ∧
      (∀ bound ∈ windowKeys, bound ∈ keys ++ missingBounds p.groupExprs) ∧
      keys.Disjoint (missingBounds p.groupExprs) ∧ (missingBounds p.groupExprs).Sublist windowKeys := by
  obtain ⟨s, hparts, htext⟩ := selectSql_parts h
  obtain ⟨keys, hkeys, hgroups⟩ := exists_groups hparts.groups
  refine ⟨s, keys, hparts, htext, hkeys, hgroups, fun bound hbound => ?_, ?_, ?_⟩
  · by_cases hmem : bound ∈ keys
    · exact List.mem_append_left _ hmem
    · exact List.mem_append_right _ ((mem_missingBounds_iff hkeys).mpr ⟨hbound, hmem⟩)
  · intro name hname hmissing
    exact ((mem_missingBounds_iff hkeys).mp hmissing).2 hname
  · exact List.filter_sublist.map _

/-- Orders counted by the end of their minute and by customer. -/
def minuteEnds : Plan :=
  { minuteCounts with
    grouping := some (.items [⟨"End", .call ⟨.window, "end"⟩ none []⟩, ⟨"Customer", .column ⟨"o", some "Order"⟩ "CustomerId"⟩])
    hasGroupBy := true }

/-- The end of the window stays where the caller has it, and the start is added. -/
theorem minuteEnds_grouped :
    minuteEnds.selectSql .standard = .ok
        ("SELECT COUNT(*) AS `count` FROM TABLE(TUMBLE(TABLE `orders`, DESCRIPTOR(`eventtime`), INTERVAL '1' MINUTE)) AS t0" ++
          " GROUP BY window_end, t0.`customerid`, window_start") ∧
      missingBounds minuteEnds.groupExprs = ["window_start"] ∧
      ∃ s keys, minuteEnds.HasParts .standard s ∧ s.groups = groupClause (keys ++ ["window_start"]) ∧ "window_start" ∉ keys ∧
        s.groups = " GROUP BY window_end, t0.`customerid`, window_start" := by
  have htext : minuteEnds.selectSql .standard = .ok
      ("SELECT COUNT(*) AS `count` FROM TABLE(TUMBLE(TABLE `orders`, DESCRIPTOR(`eventtime`), INTERVAL '1' MINUTE)) AS t0" ++
        " GROUP BY window_end, t0.`customerid`, window_start") := eq_ok_of_toOption (by decide +kernel)
  have hmissing : missingBounds minuteEnds.groupExprs = ["window_start"] := by decide
  have hclause : minuteEnds.groupBySql .standard = .ok " GROUP BY window_end, t0.`customerid`, window_start" :=
    eq_ok_of_toOption (by decide +kernel)
  obtain ⟨s, keys, hparts, -, -, hgroups, -, hdisjoint, -⟩ := groups_by_window_bounds htext
  rw [hmissing] at hdisjoint
  have hwindowed := hgroups.windowed rfl (Or.inl rfl)
  rw [hmissing] at hwindowed
  refine ⟨htext, hmissing, s, keys, hparts, hwindowed, fun hmem => hdisjoint hmem List.mem_cons_self, ?_⟩
  exact Except.ok.inj (hparts.groups.symm.trans hclause)

end Plan

end FlinkSql
