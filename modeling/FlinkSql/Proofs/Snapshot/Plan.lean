import FlinkSql.Proofs.Snapshot.Expr

/-!
# Snapshots of plans are read back

A plan is read back from its snapshot field by field. Every field is, whatever the plan is, but for expressions with doubles that
are not finite: those are written as null, which is no double.
-/

namespace FlinkSql

open Json

/-! ## Windows -/

/-- A natural number below the bound is read back from the whole number it is written as. -/
theorem natBelow?_int {n bound : Nat} (h : n < bound) : (Json.int n).natBelow? bound = some n := by
  have hrange : (0 : Int) ≤ n ∧ (n : Int) ≤ (bound : Int) - 1 := by omega
  rw [natBelow?, intIn?, if_pos hrange]
  rfl

/-- A span has less than a second of nanoseconds, so none are carried. -/
theorem Span.decode_reread (d : Span) : Span.decode d.encode.reread = some d := by
  obtain ⟨seconds, nanos, hseconds, hnanos⟩ := d
  have hfields : Span.decode (Span.encode ⟨seconds, nanos, hseconds, hnanos⟩).reread =
      ((Json.int seconds).natBelow? UInt64.size).bind fun seconds =>
        ((Json.int nanos).natBelow? UInt32.size).bind fun nanos => Span.ofParts? seconds nanos := rfl
  have hcarry : nanos / 1000000000 = 0 := Nat.div_eq_of_lt hnanos
  have hword : nanos < UInt32.size := hnanos.trans (by decide)
  rw [hfields, natBelow?_int hseconds, natBelow?_int hword]
  simp only [Option.bind_some, Span.ofParts?, hcarry, Nat.add_zero, Nat.mod_eq_of_lt hnanos]
  exact dif_pos hseconds

/-- A time attribute is read back from its JSON. -/
theorem TimeAttribute.decode_reread (t : TimeAttribute) : TimeAttribute.decode t.encode.reread = some t := by
  cases t <;> rfl

/-- A window is read back from its JSON, with its slide if it has one. -/
theorem Window.decode_reread (w : Window) : Window.decode w.encode.reread = some w := by
  obtain ⟨kind, time, size, slide⟩ := w
  have hfields : Window.decode (Window.encode ⟨kind, time, size, slide⟩).reread =
      (Json.ofNamed kind).named?.bind fun kind => (TimeAttribute.decode time.encode.reread).bind fun time =>
        (Span.decode size.encode.reread).bind fun size =>
          ((Json.ofOption Span.encode slide).reread.nullable? Span.decode).bind fun slide => some ⟨kind, time, size, slide⟩ := rfl
  have hslide : (Json.ofOption Span.encode slide).reread.nullable? Span.decode = some slide :=
    (nullable?_ofOption rfl slide).mpr fun d _ => d.decode_reread
  rw [hfields, named?_ofNamed, TimeAttribute.decode_reread, Span.decode_reread, hslide]
  rfl

/-! ## Selections -/

/-- A condition is read back exactly if the doubles in its body are finite; its parameters are those of the body. -/
theorem Predicate.decode_reread_iff (p : Predicate) : Predicate.decode p.encode.reread = some p ↔ p.body.IsFinite := by
  obtain ⟨body, params⟩ := p
  have hfields : Predicate.decode (Predicate.encode ⟨body, params⟩).reread =
      (Expr.decode body.encode.reread).bind fun body =>
        ((Json.arr (params.map Param.encode)).reread.list? Param.decode).bind fun params => some ⟨body, params⟩ := rfl
  have hparams : (Json.arr (params.map Param.encode)).reread.list? Param.decode = some params :=
    (list?_reread params).mpr fun p _ => p.decode_reread
  rw [hfields, hparams, ← Expr.decode_reread_iff]
  simp [Option.bind_eq_some_iff]

/-- An item is read back exactly if the doubles in its expression are finite. -/
theorem Item.decode_reread_iff (i : Item) : Item.decode i.encode.reread = some i ↔ i.expr.IsFinite := by
  obtain ⟨label, expr⟩ := i
  have hfields : Item.decode (Item.encode ⟨label, expr⟩).reread =
      (Expr.decode expr.encode.reread).bind fun expr => some ⟨label, expr⟩ := rfl
  rw [hfields, ← Expr.decode_reread_iff]
  simp [Option.bind_eq_some_iff]

/-- A projection is read back exactly if the doubles in its items are finite. -/
theorem Selection.decode_reread_iff (s : Selection) : decode s.encode.reread = some s ↔ ∀ i ∈ s.itemList, i.expr.IsFinite := by
  cases s with
  | wildcard param =>
    have hread : decode (wildcard param).encode.reread =
        ((Json.ofOption Param.encode param).reread.nullable? Param.decode).map .wildcard := rfl
    rw [hread, (nullable?_ofOption rfl param).mpr fun p _ => p.decode_reread]
    exact ⟨fun _ => List.forall_mem_nil _, fun _ => rfl⟩
  | items values =>
    have hread : decode (items values).encode.reread =
        ((Json.arr (values.map Item.encode)).reread.list? Item.decode).map .items := rfl
    have hitems : (Json.arr (values.map Item.encode)).reread.list? Item.decode = some values ↔ ∀ i ∈ values, i.expr.IsFinite :=
      (list?_reread values).trans (forall₂_congr fun i _ => i.decode_reread_iff)
    rw [hread, itemList, ← hitems]
    simp [Option.map_eq_some_iff]

/-! ## Plans -/

namespace Plan

/-- All expressions of a plan: the conditions, the projection as it was written and what it selects, the grouping keys, and the
condition on groups. -/
def allExpressions (p : Plan) : List Expr :=
  (p.joins ++ p.wheres).map (·.body) ++ p.projection.toList ++
    (p.selection.itemList ++ p.grouping.toList.flatMap (·.itemList)).map (·.expr) ++ p.having.toList

/-- What holds of all expressions of a plan holds of those in each of its clauses. -/
theorem forall_mem_allExpressions {p : Plan} {P : Expr → Prop} : (∀ e ∈ p.allExpressions, P e) ↔
    (∀ c ∈ p.joins, P c.body) ∧ (∀ c ∈ p.wheres, P c.body) ∧ (∀ e ∈ p.projection, P e) ∧ (∀ i ∈ p.selection.itemList, P i.expr) ∧
      (∀ s ∈ p.grouping, ∀ i ∈ s.itemList, P i.expr) ∧ ∀ e ∈ p.having, P e := by
  simp only [allExpressions, List.forall_mem_append, List.forall_mem_map, List.mem_flatMap, Option.mem_toList, and_assoc,
    forall_exists_index, and_imp]
  tauto

/-- A plan is read back field by field. -/
theorem decode_reread_iff (p : Plan) : decode p.encode.reread = some p ↔ ∀ e ∈ p.allExpressions, e.IsFinite := by
  obtain ⟨types, topics, joins, wheres, projection, selection, grouping, having, window, groupBy, aggregate, hasHaving, mode⟩ := p
  have hfields : decode (encode ⟨types, topics, joins, wheres, projection, selection, grouping, having, window, groupBy, aggregate,
      hasHaving, mode⟩).reread =
    ((Json.arr (types.map .str)).reread.list? Json.str?).bind fun types =>
    ((Json.arr (topics.map .str)).reread.list? Json.str?).bind fun topics =>
    ((Json.arr (joins.map Predicate.encode)).reread.list? Predicate.decode).bind fun joins =>
    ((Json.arr (wheres.map Predicate.encode)).reread.list? Predicate.decode).bind fun wheres =>
    ((Json.ofOption Expr.encode projection).reread.nullable? Expr.decode).bind fun projection =>
    (Selection.decode selection.encode.reread).bind fun selection =>
    ((Json.ofOption Selection.encode grouping).reread.nullable? Selection.decode).bind fun grouping =>
    ((Json.ofOption Expr.encode having).reread.nullable? Expr.decode).bind fun having =>
    ((Json.ofOption Window.encode window).reread.nullable? Window.decode).bind fun window =>
    (Json.ofNamed mode).named?.bind fun mode =>
      some ⟨types, topics, joins, wheres, projection, selection, grouping, having, window, groupBy, aggregate, hasHaving, mode⟩ := rfl
  have htexts : ∀ texts : List String, (Json.arr (texts.map .str)).reread.list? Json.str? = some texts := fun texts =>
    (list?_reread texts).mpr fun _ _ => rfl
  have hconditions : ∀ conditions : List Predicate,
      (Json.arr (conditions.map Predicate.encode)).reread.list? Predicate.decode = some conditions ↔
        ∀ c ∈ conditions, c.body.IsFinite := fun conditions =>
    (list?_reread conditions).trans (forall₂_congr fun c _ => c.decode_reread_iff)
  have hexpression : ∀ e : Option Expr, (Json.ofOption Expr.encode e).reread.nullable? Expr.decode = some e ↔ ∀ e' ∈ e, e'.IsFinite :=
    fun e => (nullable?_ofOption Expr.decode_null e).trans (forall₂_congr fun e' _ => e'.decode_reread_iff)
  have hgrouping : (Json.ofOption Selection.encode grouping).reread.nullable? Selection.decode = some grouping ↔
      ∀ s ∈ grouping, ∀ i ∈ s.itemList, i.expr.IsFinite :=
    (nullable?_ofOption rfl grouping).trans (forall₂_congr fun s _ => s.decode_reread_iff)
  have hwindow : (Json.ofOption Window.encode window).reread.nullable? Window.decode = some window :=
    (nullable?_ofOption rfl window).mpr fun w _ => w.decode_reread
  rw [hfields, htexts, htexts, hwindow, named?_ofNamed]
  simp [Option.bind_eq_some_iff, hconditions, hexpression, hgrouping, Selection.decode_reread_iff, forall_mem_allExpressions]

end Plan

end FlinkSql
