import FlinkSql.Proofs.Expr.Neutral
import FlinkSql.Proofs.Statement.Legality
import FlinkSql.Proofs.Time.Interval
import FlinkSql.Statement.Insert

/-!
# What becomes of a SELECT

One walk over the clauses of a SELECT. What it writes with the standard registry is neutral, and it fails only because the plan
breaks a rule, because one of its expressions is unsupported, or because a span of its window is no interval.
-/

namespace FlinkSql

open Text

/-- The spans of a window that are converted to intervals. -/
def Window.spans (w : Window) : List Span := w.size :: if w.kind = .hop then w.slide.toList else []

namespace Plan

/-! ## How it fails -/

/-- The expressions of a plan that are written as they stand. -/
def expressions (p : Plan) : List Expr :=
  (p.selection.itemList.map (·.expr) ++ p.joins.map (·.body)) ++
    (p.wheres.map (·.body) ++ (p.grouping.toList.flatMap (·.itemList)).map (·.expr))

/-- A failure of one of the expressions of a plan: of one that is written as it stands, of the row that is projected, or of the
condition on groups. -/
inductive ExpressionFailure (p : Plan) (f : Failure) : Prop
  | written (e : Expr) (he : e ∈ p.expressions) (h : e.sql .standard p.aliases = .error f)
  | row (param : Param) (hselection : p.selection = .wildcard (some param)) (h : p.aliases.resolve param = .error f)
  | having (condition : Expr) (hhaving : p.having = some condition) (h : Having.sql .standard p condition = .error f)

/-- The failures of a SELECT: the first rule that the plan breaks, an unsupported expression, a span that is no interval. -/
inductive SelectFailure (p : Plan) (f : Failure) : Prop
  | rule (h : p.fault? = some f)
  | expression (hkind : f.IsUnsupported) (h : p.ExpressionFailure f)
  | interval (w : Window) (hwindow : p.window = some w) (d : Span) (hd : d ∈ w.spans) (h : Interval.ofSpan d = .error f)

/-- An outcome whose failures are unsupported expressions of the plan. -/
theorem selectFailure_of_written {p : Plan} {x : Except Failure String} (h : Written Neutral x)
    (hx : ∀ f, x = .error f → p.ExpressionFailure f) : Outcome p.SelectFailure Neutral x :=
  Outcome.intro (fun _ hok => h.value hok) fun f herror => .expression (h.failure herror) (hx f herror)

/-- The clauses other than the condition on groups know no alias for the output row. -/
theorem neutral_output (p : Plan) : ∀ output ∈ p.aliases.output, Neutral output := nofun

/-- An expression of the plan. -/
theorem neutral_expression {p : Plan} {e : Expr} (he : e ∈ p.expressions) :
    Outcome p.SelectFailure Neutral (e.sql .standard p.aliases) :=
  selectFailure_of_written (e.neutral_sql p.neutral_output) fun _ h => .written e he h

/-! ## The clauses -/

/-- The items of the projection, each behind a comma and with its label. -/
theorem neutral_itemsSql (p : Plan) : Outcome p.SelectFailure Neutral (p.itemsSql .standard) := by
  unfold itemsSql
  split
  · exact (show Neutral "*" from rfl)
  · rename_i param hselection
    have hresolve : Outcome p.SelectFailure Neutral (p.aliases.resolve param) :=
      selectFailure_of_written (p.aliases.neutral_resolve p.neutral_output param) fun _ h => .row param hselection h
    refine hresolve.bind fun source hsource => ?_
    have hstar : Neutral ".*" := rfl
    exact hsource.append hstar
  · rename_i items hselection
    have hitem : ∀ item ∈ items, Outcome p.SelectFailure Neutral (itemSql .standard p.aliases item) := by
      intro item hitem
      have he : item.expr ∈ p.expressions := by
        refine List.mem_append_left _ (List.mem_append_left _ (List.mem_map.mpr ⟨item, ?_, rfl⟩))
        rw [hselection]
        exact hitem
      refine (neutral_expression he).bind fun text htext => ?_
      have has : Neutral " AS " := rfl
      exact (htext.append has).append (neutral_quotedName _)
    exact (Outcome.mapM hitem).bind fun texts htexts => neutral_comma.intercalate htexts

/-- A table with the column of its time. -/
theorem neutral_windowedTable {table : String} (h : Neutral table) (w : Window) : Neutral (windowedTable table w) := by
  have htable : Neutral "TABLE " := rfl
  have hdescriptor : Shifts [] ", DESCRIPTOR(" ['('] := rfl
  have hcolumn : Neutral (timeColumn w.time) := by
    cases w.time with
    | column name => exact neutral_quotedName _
    | processing => exact neutral_quotedName _
  exact ((Shifts.append (htable.append h) hdescriptor).then hcolumn).append (closing [])

/-- The window function of a window whose slide is there if it hops. -/
theorem neutral_windowFunction {p : Plan} {table : String} (h : Neutral table) {w : Window} (hw : p.window = some w)
    (hslide : w.kind = .hop → w.slide.isSome) : Outcome p.SelectFailure Neutral (windowFunction table w) := by
  have hspan : ∀ d ∈ w.spans, Outcome p.SelectFailure (fun _ => True) (Interval.ofSpan d) := fun d hd =>
    Outcome.intro (fun _ _ => trivial) fun f herror => .interval w hw d hd herror
  refine (hspan w.size List.mem_cons_self).bind fun size _ => ?_
  have hargument : ∀ i : Interval, Neutral (", " ++ i.sql) := fun i => neutral_comma.append (neutral_interval i)
  have hwindowed := neutral_windowedTable h w
  split
  · have hopen : Shifts [] "TUMBLE(" ['('] := rfl
    exact (((hopen.then hwindowed).then neutral_comma).then (neutral_interval size)).append (closing [])
  · rename_i slide hkind hsome
    have hmem : slide ∈ w.spans := by
      rw [Window.spans, if_pos hkind, hsome]
      exact List.mem_cons_of_mem _ List.mem_cons_self
    refine (hspan slide hmem).bind fun slide _ => ?_
    have hopen : Shifts [] "HOP(" ['('] := rfl
    exact (((((hopen.then hwindowed).then neutral_comma).then (neutral_interval slide)).then neutral_comma).then
      (neutral_interval size)).append (closing [])
  · rename_i hkind hnone
    have hsome := hslide hkind
    rw [hnone] at hsome
    cases hsome
  · have hopen : Shifts [] "SESSION(" ['('] := rfl
    exact (((hopen.then hwindowed).then neutral_comma).then (neutral_interval size)).append (closing [])

/-- The first table, in its window if there is one. -/
theorem neutral_fromSql {p : Plan} (hp : p.Legal) {table : String} (h : Neutral table) :
    Outcome p.SelectFailure Neutral (fromSql table p.window) := by
  cases hwindow : p.window with
  | none => exact h
  | some w =>
    refine (neutral_windowFunction h hwindow (hp.slide w hwindow)).bind fun function hfunction => ?_
    have hopen : Shifts [] "TABLE(" ['('] := rfl
    exact (hopen.then hfunction).append (closing [])

/-- The joins, each with its condition. -/
theorem neutral_joinsSql {p : Plan} {index : Nat} {joins : List (String × Predicate)}
    (h : ∀ join ∈ joins, Neutral join.1 ∧ join.2 ∈ p.joins) :
    Outcome p.SelectFailure Neutral (joinsSql .standard p.aliases index joins) := by
  induction joins generalizing index with
  | nil => exact neutral_empty
  | cons join rest ih =>
    obtain ⟨⟨htable, hjoin⟩, hrest⟩ := List.forall_mem_cons.mp h
    have he : join.2.body ∈ p.expressions :=
      List.mem_append_left _ (List.mem_append_right _ (List.mem_map.mpr ⟨join.2, hjoin, rfl⟩))
    refine (neutral_expression he).bind fun condition hcondition => (ih hrest).bind fun others hothers => ?_
    have hword : Neutral " JOIN " := rfl
    have has : Neutral " AS " := rfl
    have hon : Neutral " ON " := rfl
    exact (((((hword.append htable).append has).append (neutral_tableAlias index)).append hon).append hcondition).append hothers

/-- The conditions on rows. -/
theorem neutral_wheresSql (p : Plan) : Outcome p.SelectFailure Neutral (p.wheresSql .standard) := by
  have hwhere : ∀ predicate ∈ p.wheres, Outcome p.SelectFailure Neutral (predicate.body.sql .standard p.aliases) := by
    intro predicate h
    exact neutral_expression (List.mem_append_right _ (List.mem_append_left _ (List.mem_map.mpr ⟨predicate, h, rfl⟩)))
  refine (Outcome.mapM hwhere).bind fun texts htexts => ?_
  have hword : Neutral " WHERE " := rfl
  have hand : Neutral " AND " := rfl
  show Neutral (if texts.isEmpty then "" else " WHERE " ++ " AND ".intercalate texts)
  split
  · exact neutral_empty
  · exact hword.append (hand.intercalate htexts)

/-- Grouping keys stay neutral when the bounds of a window are added. -/
theorem neutral_withBounds (p : Plan) {texts : List String} (h : ∀ t ∈ texts, Neutral t) :
    ∀ t ∈ groupKeys.withBounds p texts, Neutral t := by
  have hbounds : ∀ t ∈ windowKeys, Neutral t := by
    intro t ht
    simp only [windowKeys, List.mem_cons, List.not_mem_nil, or_false] at ht
    rcases ht with rfl | rfl
    · exact rfl
    · exact rfl
  unfold groupKeys.withBounds
  split
  · exact List.forall_mem_append.mpr ⟨h, fun t ht => hbounds t (List.mem_of_mem_filter ht)⟩
  · exact h

/-- The grouping keys, with the bounds of the window that are missing among them. -/
theorem neutral_groupBySql (p : Plan) : Outcome p.SelectFailure Neutral (p.groupBySql .standard) := by
  have hkeys : Outcome p.SelectFailure (fun keys => ∀ texts ∈ keys, ∀ t ∈ texts, Neutral t) (p.groupKeys .standard) := by
    unfold groupKeys
    split
    · rename_i keys hgrouping
      have hkey : ∀ item ∈ keys.itemList, Outcome p.SelectFailure Neutral (item.expr.sql .standard p.aliases) := by
        intro item hitem
        refine neutral_expression (List.mem_append_right _ (List.mem_append_right _ (List.mem_map.mpr ⟨item, ?_, rfl⟩)))
        rw [hgrouping]
        exact List.mem_flatMap.mpr ⟨keys, List.mem_cons_self, hitem⟩
      refine (Outcome.mapM hkey).bind fun texts htexts => ?_
      rintro _ ⟨⟩
      exact neutral_withBounds p htexts
    · show ∀ texts ∈ (if p.window.isSome ∧ p.hasAggregate then some _ else none), ∀ t ∈ texts, Neutral t
      split
      · rintro _ ⟨⟩
        exact neutral_withBounds p fun t ht => absurd ht List.not_mem_nil
      · exact nofun
  refine hkeys.bind fun keys h => ?_
  have hword : Neutral " GROUP BY " := rfl
  cases keys with
  | none => exact neutral_empty
  | some texts => exact hword.append (neutral_comma.intercalate (h texts rfl))

/-- The condition on groups. -/
theorem neutral_having (p : Plan) (condition : Expr) : Written Neutral (Having.sql .standard p condition) := by
  unfold Having.sql
  simp only
  split
  · refine Expr.neutral_sql ?_ condition
    rintro _ ⟨⟩
    exact neutral_tableAlias 0
  · split
    · exact rfl
    · exact Expr.neutral_sql p.neutral_output _

/-! ## The statement -/

/-- The statement up to its grouping keys. -/
theorem neutral_groupedSql (p : Plan) : Outcome p.SelectFailure Neutral (p.groupedSql .standard) := by
  have hcheck : Outcome p.SelectFailure (fun _ => p.Legal) p.check := by
    refine Outcome.intro (fun _ hok => check_eq_ok_iff.mp hok) fun f herror => .rule ?_
    rw [check] at herror
    split at herror
    · rename_i fault hfault
      cases herror
      exact hfault
    · cases herror
  refine hcheck.bind fun _ hp => ?_
  have htables : ∀ table ∈ p.tableNames.map Name.quotedObject, Neutral table := by
    intro table h
    obtain ⟨name, -, rfl⟩ := List.mem_map.mp h
    exact neutral_quotedName _
  split
  · rename_i hnil
    exact absurd (List.map_eq_nil_iff.mp hnil) hp.tableNames_ne_nil
  · rename_i first others htable
    rw [htable] at htables
    obtain ⟨hfirst, hothers⟩ := List.forall_mem_cons.mp htables
    have hjoins : ∀ join ∈ others.zip p.joins, Neutral join.1 ∧ join.2 ∈ p.joins := fun join h =>
      ⟨hothers _ (List.of_mem_zip h).1, (List.of_mem_zip h).2⟩
    refine p.neutral_itemsSql.bind fun items hitems => (neutral_fromSql hp hfirst).bind fun source hsource =>
      (neutral_joinsSql hjoins).bind fun joins hjoins => p.neutral_wheresSql.bind fun wheres hwheres =>
      p.neutral_groupBySql.bind fun groups hgroups => ?_
    have hselect : Neutral "SELECT " := rfl
    have hfrom : Neutral " FROM " := rfl
    have has : Neutral " AS " := rfl
    exact (((((((hselect.append hitems).append hfrom).append hsource).append has).append (neutral_tableAlias 0)).append
      hjoins).append hwheres).append hgroups

/-- What becomes of a SELECT: a neutral text, or one of three failures. -/
theorem neutral_selectSql (p : Plan) : Outcome p.SelectFailure Neutral (p.selectSql .standard) := by
  refine p.neutral_groupedSql.bind fun grouped hgrouped => ?_
  split
  · exact hgrouped
  · rename_i condition hhaving
    have htext : Outcome p.SelectFailure Neutral (Having.sql .standard p condition) :=
      selectFailure_of_written (p.neutral_having condition) fun _ h => .having condition hhaving h
    refine htext.bind fun text htext => ?_
    have hword : Neutral " HAVING " := rfl
    exact (hgrouped.append hword).append htext

/-! ## Which plans are written -/

/-- A plan that breaks a rule fails with the first such rule, whatever functions are known. -/
theorem selectSql_of_fault {p : Plan} {f : Failure} (h : p.fault? = some f) (functions : Registry) :
    p.selectSql functions = .error f := by
  have hcheck : p.check = .error f := by
    rw [check, h]
  have hgrouped : p.groupedSql functions = .error f := by
    rw [groupedSql, hcheck]
    rfl
  rw [selectSql, hgrouped]
  rfl

/-- A plan that is written is legal. -/
theorem legal_of_selectSql {functions : Registry} {p : Plan} {text : String} (h : p.selectSql functions = .ok text) :
    p.Legal := by
  rw [← fault?_eq_none_iff]
  cases hfault : p.fault? with
  | none => rfl
  | some f =>
    rw [selectSql_of_fault hfault] at h
    cases h

/-- INSERT fails where SELECT does, and if final results are wanted without a window. -/
theorem insertSql_fails_iff (functions : Registry) (p : Plan) (target : InsertTarget) :
    (∃ f, p.insertSql functions target = .error f) ↔
      (∃ f, p.selectSql functions = .error f) ∨ target.mode = .final ∧ p.window = none := by
  rw [← Option.isNone_iff_eq_none]
  unfold insertSql
  by_cases hfinal : target.mode = .final ∧ p.window.isNone
  · rw [if_pos hfinal]
    exact ⟨fun _ => Or.inr hfinal, fun _ => ⟨_, rfl⟩⟩
  · rw [if_neg hfinal]
    cases p.selectSql functions with
    | error f => exact ⟨fun _ => Or.inl ⟨f, rfl⟩, fun _ => ⟨f, rfl⟩⟩
    | ok select => exact ⟨nofun, fun h => h.elim (fun ⟨_, h⟩ => nomatch h) fun h => absurd h hfinal⟩

/-- The rules decide. A plan that breaks one is never written; a legal plan fails only in its expressions or in the spans of its
window, never for a rule of the dialect. So a plan with a window that is written has one source, and INSERT fails for the same
plans, and for those without a window whose final results are wanted. -/
theorem legality_decides (p : Plan) (target : InsertTarget) :
    (¬p.Legal → ∃ f, p.selectSql .standard = .error f) ∧
      (p.Legal → ∀ f, p.selectSql .standard = .error f → f.kind ≠ .dialectConstraint ∧
        (f.kind = .unsupported ∧ p.ExpressionFailure f ∨
          f.kind = .malformedInterval ∧ ∃ w, p.window = some w ∧ ∃ d ∈ w.spans, Interval.ofSpan d = .error f)) ∧
      (∀ text, p.selectSql .standard = .ok text → p.window.isSome → p.sourceTypes.length = 1) ∧
      ((∃ f, p.insertSql .standard target = .error f) ↔
        (∃ f, p.selectSql .standard = .error f) ∨ target.mode = .final ∧ p.window = none) := by
  refine ⟨fun hillegal => ?_, fun hlegal f hf => ?_, fun text htext => ?_, insertSql_fails_iff .standard p target⟩
  · obtain ⟨f, hf⟩ := Option.ne_none_iff_exists'.mp (mt fault?_eq_none_iff.mp hillegal)
    exact ⟨f, selectSql_of_fault hf .standard⟩
  · cases p.neutral_selectSql.failure hf with
    | rule hrule =>
      rw [fault?_eq_none_iff.mpr hlegal] at hrule
      cases hrule
    | expression hkind h =>
      rw [Failure.IsUnsupported] at hkind
      exact ⟨by rw [hkind]; decide, Or.inl ⟨hkind, h⟩⟩
    | interval w hwindow d hd h =>
      have hkind := failure_of_ofSpan h
      exact ⟨by rw [hkind]; decide, Or.inr ⟨hkind, w, hwindow, d, hd, h⟩⟩
  · exact (legal_of_selectSql htext).one_source

/-- Orders counted by the minute. -/
def minuteCounts : Plan where
  sourceTypes := ["Order"]
  sourceTopics := ["orders"]
  joins := []
  wheres := []
  projection := none
  selection := .items [⟨"Count", .call ⟨.aggregate, "count"⟩ none []⟩]
  grouping := none
  having := none
  window := some (.tumble (.column "EventTime") ⟨60, 0, by decide, by decide⟩)
  hasGroupBy := false
  hasAggregate := true
  hasHaving := false
  sinkMode := .appendOnly

/-- Counting by the minute is written, and reads one source. With a second topic it breaks a rule, and final results need its
window. -/
theorem minuteCounts_decided :
    (∃ text, minuteCounts.selectSql .standard = .ok text ∧ minuteCounts.sourceTypes.length = 1) ∧
      (∃ f, { minuteCounts with sourceTopics := ["orders", "others"] }.selectSql .standard = .error f) ∧
      ∃ f, { minuteCounts with window := none }.insertSql .standard ⟨.stream, .final, "counts", "counts"⟩ = .error f := by
  have htext : minuteCounts.selectSql .standard =
      .ok ("SELECT COUNT(*) AS `count` FROM TABLE(TUMBLE(TABLE `orders`, DESCRIPTOR(`eventtime`), INTERVAL '1' MINUTE)) AS t0" ++
        " GROUP BY window_start, window_end") := eq_ok_of_toOption (by decide +kernel)
  have hillegal : ¬{ minuteCounts with sourceTopics := ["orders", "others"] }.Legal :=
    fun h => absurd h.topics (by decide)
  refine ⟨⟨_, htext, ?_⟩, ?_, ?_⟩
  · exact (legality_decides minuteCounts ⟨.stream, .changes, "counts", "counts"⟩).2.2.1 _ htext rfl
  · exact (legality_decides _ ⟨.stream, .changes, "counts", "counts"⟩).1 hillegal
  · exact (legality_decides _ ⟨.stream, .final, "counts", "counts"⟩).2.2.2.mpr (Or.inr ⟨rfl, rfl⟩)

end Plan

end FlinkSql
