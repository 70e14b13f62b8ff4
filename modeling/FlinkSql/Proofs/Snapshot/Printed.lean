import FlinkSql.Proofs.Json.Printed
import FlinkSql.Proofs.Snapshot.Plan

/-!
# Snapshots as texts

The whole numbers of a plan fit the words that a reader of JSON has for them. So the text of a snapshot is read as the value that it
was written from, and a plan is read back from the text of its snapshot, as far as its doubles are read back from theirs.
-/

namespace FlinkSql

namespace Json

variable {α : Type} {write : α → Json}

/-- One more member that can be printed leaves an object one that can be printed. -/
theorem IsPrintable.member {name : String} {v : Json} {members : List (String × Json)} (hv : v.IsPrintable)
    (h : (Json.obj members).IsPrintable) : (Json.obj ((name, v) :: members)).IsPrintable := by
  cases h with
  | obj h => exact .obj (List.forall_mem_cons.mpr ⟨hv, h⟩)

/-- The object without members can be printed. -/
theorem isPrintable_empty : (obj []).IsPrintable := .obj (List.forall_mem_nil _)

/-- A variant can be printed if its payload can. -/
theorem IsPrintable.ofVariant {name : String} {payload : Json} (h : payload.IsPrintable) :
    (Json.ofVariant name payload).IsPrintable :=
  h.member isPrintable_empty

/-- A name is printed as a string. -/
theorem isPrintable_ofNamed [Named α] (a : α) : (ofNamed a).IsPrintable := .str _

/-- What may be missing can be printed if it can where it is there. -/
theorem isPrintable_ofOption {o : Option α} (h : ∀ a ∈ o, (write a).IsPrintable) : (ofOption write o).IsPrintable := by
  cases o with
  | none => exact .null
  | some a => exact h a rfl

/-- A list of values can be printed if each of them can. -/
theorem isPrintable_map {l : List α} (h : ∀ a ∈ l, (write a).IsPrintable) : (arr (l.map write)).IsPrintable :=
  .arr (List.forall_mem_map.mpr h)

/-- A whole number that fits an unsigned word. -/
theorem isPrintable_nat {n : Nat} (h : n < UInt64.size) : (Json.int n).IsPrintable :=
  .int (Int.le_trans (by decide) (Int.natCast_nonneg n)) (Int.ofNat_lt.mpr h)

end Json

open Json

/-! ## Expressions -/

/-- The double in a literal is read back, if the literal is one. -/
def Literal.ReadsBack : Literal → Prop
  | .float x => Json.ReadsBack x
  | _ => True

/-- A literal can be printed if the double in it is read back; its whole numbers fit a word. -/
theorem Literal.isPrintable_encode {v : Literal} (h : v.ReadsBack) : v.encode.IsPrintable := by
  cases v with
  | null => exact .str _
  | boolean b => exact (IsPrintable.bool b).ofVariant
  | integer n =>
    have hhigh : n.toInt < UInt64.size := Int.lt_of_le_of_lt (Int64.toInt_le n) (by decide)
    exact (IsPrintable.int (Int64.minValue_le_toInt n) hhigh).ofVariant
  | float x => exact (IsPrintable.float h).ofVariant
  | decimal d => exact (IsPrintable.str d).ofVariant
  | string s => exact (IsPrintable.str s).ofVariant
  | timestamp t => exact (IsPrintable.str t.iso).ofVariant

/-- A parameter is printed as two strings, or one and null. -/
theorem Param.isPrintable_encode (p : Param) : p.encode.IsPrintable := by
  obtain ⟨name, row⟩ := p
  have hrow : ((row.map Json.str).getD .null).IsPrintable := by
    cases row with
    | none => exact .null
    | some row => exact .str row
  exact (IsPrintable.str name).member (hrow.member isPrintable_empty)

namespace Expr

/-- The finite doubles in the literals of an expression are read back from their texts. -/
def ReadsBack (e : Expr) : Prop := ∀ v, .literal v ∈ e.nodes → v.ReadsBack

/-- If the doubles of an expression are read back, those of each part are. -/
theorem ReadsBack.child {e child : Expr} (h : e.ReadsBack) (hchild : child ∈ e.children) : child.ReadsBack :=
  fun v hmem => h v (mem_nodes_of_child hchild hmem)

/-- Arguments can be printed if each can. -/
theorem isPrintable_encodeArgs {args : List Expr} (h : ∀ e ∈ args, e.encode.IsPrintable) :
    (arr (encodeArgs args)).IsPrintable := by
  rw [encodeArgs_eq]
  exact isPrintable_map h

/-- Members can be printed if the value of each can. -/
theorem isPrintable_encodeMembers {members : List (String × Expr)} (h : ∀ m ∈ members, m.2.encode.IsPrintable) :
    (arr (encodeMembers members)).IsPrintable := by
  refine .arr ?_
  induction members with
  | nil => exact List.forall_mem_nil _
  | cons m members ih =>
    obtain ⟨hm, hrest⟩ := List.forall_mem_cons.mp h
    refine List.forall_mem_cons.mpr ⟨?_, ih hrest⟩
    exact (IsPrintable.str m.1).member (hm.member isPrintable_empty)

/-- An expression can be printed if the doubles in it are read back. -/
theorem isPrintable_encode {e : Expr} (h : e.ReadsBack) : e.encode.IsPrintable := by
  induction e using induction_children with
  | step e ih =>
    have hchild : ∀ child ∈ e.children, child.encode.IsPrintable := fun child hchild => ih child hchild (h.child hchild)
    cases e with
    | literal v => exact (Literal.isPrintable_encode (h v (mem_nodes_self _))).ofVariant
    | column p name => exact (p.isPrintable_encode.member ((IsPrintable.str name).member isPrintable_empty)).ofVariant
    | row p => exact p.isPrintable_encode.ofVariant
    | member target name =>
      have htarget := hchild target List.mem_cons_self
      exact (htarget.member ((IsPrintable.str name).member isPrintable_empty)).ofVariant
    | unary op operand =>
      have hoperand := hchild operand List.mem_cons_self
      exact ((isPrintable_ofNamed op).member (hoperand.member isPrintable_empty)).ofVariant
    | binary op left right =>
      have hleft := hchild left List.mem_cons_self
      have hright := hchild right (List.mem_cons_of_mem _ List.mem_cons_self)
      exact (hleft.member ((isPrintable_ofNamed op).member (hright.member isPrintable_empty))).ofVariant
    | conditional test yes no =>
      obtain ⟨htest, hyes, hno⟩ : test.encode.IsPrintable ∧ yes.encode.IsPrintable ∧ no.encode.IsPrintable := by
        simpa [children] using hchild
      exact (htest.member (hyes.member (hno.member isPrintable_empty))).ofVariant
    | coalesce left right =>
      have hleft := hchild left List.mem_cons_self
      have hright := hchild right (List.mem_cons_of_mem _ List.mem_cons_self)
      exact (hleft.member (hright.member isPrintable_empty)).ofVariant
    | call f receiver args =>
      have hargs := isPrintable_encodeArgs fun e he => hchild e (List.mem_append_right _ he)
      have hcall : ∀ target : Json, target.IsPrintable → (Json.ofVariant "Call" (.obj [("origin", .ofNamed f.origin),
          ("name", .str f.name), ("receiver", target), ("args", .arr (encodeArgs args))])).IsPrintable := fun target htarget =>
        ((isPrintable_ofNamed f.origin).member
          ((IsPrintable.str f.name).member (htarget.member (hargs.member isPrintable_empty)))).ofVariant
      cases receiver with
      | none => exact hcall .null .null
      | some receiver => exact hcall receiver.encode (hchild receiver List.mem_cons_self)
    | record members =>
      exact (isPrintable_encodeMembers fun m hm => hchild m.2 (List.mem_map_of_mem hm)).ofVariant

end Expr

/-! ## Plans -/

/-- The seconds and the nanoseconds of a span fit a word. -/
theorem Span.isPrintable_encode (d : Span) : d.encode.IsPrintable := by
  obtain ⟨seconds, nanos, hseconds, hnanos⟩ := d
  have hword : nanos < UInt64.size := hnanos.trans (by decide)
  exact (isPrintable_nat hseconds).member ((isPrintable_nat hword).member isPrintable_empty)

/-- A time attribute is printed as a string, or as a variant with one. -/
theorem TimeAttribute.isPrintable_encode (t : TimeAttribute) : t.encode.IsPrintable := by
  cases t with
  | column name => exact (IsPrintable.str name).ofVariant
  | processing => exact .str _

/-- A window can be printed, whatever its spans are. -/
theorem Window.isPrintable_encode (w : Window) : w.encode.IsPrintable :=
  (isPrintable_ofNamed w.kind).member (w.time.isPrintable_encode.member (w.size.isPrintable_encode.member
    ((isPrintable_ofOption fun d _ => d.isPrintable_encode).member isPrintable_empty)))

/-- A condition can be printed if the doubles in it are read back. -/
theorem Predicate.isPrintable_encode {p : Predicate} (h : p.body.ReadsBack) : p.encode.IsPrintable :=
  (Expr.isPrintable_encode h).member ((isPrintable_map fun p _ => p.isPrintable_encode).member isPrintable_empty)

/-- An item can be printed if the doubles in its expression are read back. -/
theorem Item.isPrintable_encode {i : Item} (h : i.expr.ReadsBack) : i.encode.IsPrintable :=
  (IsPrintable.str i.label).member ((Expr.isPrintable_encode h).member isPrintable_empty)

/-- A projection can be printed if the doubles in its items are read back. -/
theorem Selection.isPrintable_encode {s : Selection} (h : ∀ i ∈ s.itemList, i.expr.ReadsBack) : s.encode.IsPrintable := by
  cases s with
  | wildcard param => exact (isPrintable_ofOption fun p _ => p.isPrintable_encode).ofVariant
  | items values => exact (isPrintable_map fun i hi => Item.isPrintable_encode (h i hi)).ofVariant

namespace Plan

variable {p : Plan}

/-- A plan can be printed if the doubles in its expressions are read back. -/
theorem isPrintable_encode (h : ∀ e ∈ p.allExpressions, e.ReadsBack) : p.encode.IsPrintable := by
  obtain ⟨hjoins, hwheres, hprojection, hselection, hgrouping, hhaving⟩ := forall_mem_allExpressions.mp h
  have htexts : ∀ texts : List String, (arr (texts.map .str)).IsPrintable := fun texts => isPrintable_map fun s _ => .str s
  have hconditions : ∀ {conditions : List Predicate}, (∀ c ∈ conditions, c.body.ReadsBack) →
      (arr (conditions.map Predicate.encode)).IsPrintable := fun h =>
    isPrintable_map fun c hc => Predicate.isPrintable_encode (h c hc)
  have hexpression : ∀ {e : Option Expr}, (∀ e' ∈ e, e'.ReadsBack) → (ofOption Expr.encode e).IsPrintable := fun h =>
    isPrintable_ofOption fun e he => Expr.isPrintable_encode (h e he)
  have hkeys : (ofOption Selection.encode p.grouping).IsPrintable :=
    isPrintable_ofOption fun s hs => Selection.isPrintable_encode (hgrouping s hs)
  have hwindow : (ofOption Window.encode p.window).IsPrintable := isPrintable_ofOption fun w _ => w.isPrintable_encode
  have hmode : (obj [("sink_mode", .ofNamed p.sinkMode)]).IsPrintable := (isPrintable_ofNamed p.sinkMode).member isPrintable_empty
  exact (htexts _).member ((htexts _).member ((hconditions hjoins).member ((hconditions hwheres).member
    ((hexpression hprojection).member ((Selection.isPrintable_encode hselection).member (hkeys.member ((hexpression hhaving).member
      (hwindow.member ((IsPrintable.bool _).member ((IsPrintable.bool _).member ((IsPrintable.bool _).member hmode)))))))))))

/-- The text of a snapshot is read as the value that it was written from, with null for the doubles that are not finite. -/
theorem read?_snapshot (h : ∀ e ∈ p.allExpressions, e.ReadsBack) : Json.read? p.snapshot = some p.encode.reread :=
  read?_indented (isPrintable_encode h)

/-- A plan is read back from the text of its snapshot if all doubles in its literals are finite, and only then. -/
theorem decode_snapshot_iff (h : ∀ e ∈ p.allExpressions, e.ReadsBack) :
    (Json.read? p.snapshot).bind decode = some p ↔ ∀ e ∈ p.allExpressions, e.IsFinite := by
  rw [read?_snapshot h, Option.bind_some]
  exact decode_reread_iff p

/-- Orders of half a unit and more, in windows that start twice in their time. -/
def fractionalOrders : Plan where
  sourceTypes := ["Order"]
  sourceTopics := ["orders \"eu\""]
  joins := []
  wheres := [.ofExpr (.binary .ge (.column ⟨"o", some "Order"⟩ "Amount") (.literal (.float 0.5)))]
  projection := none
  selection := .wildcard none
  grouping := some (.items [⟨"Id", .call ⟨.string, "to_upper"⟩ (some (.column ⟨"o", none⟩ "Id")) []⟩])
  having := none
  window := some (.hop .processing ⟨2, 500000000, by decide, by decide⟩ ⟨1, 250000000, by decide, by decide⟩)
  hasGroupBy := true
  hasAggregate := false
  hasHaving := false
  sinkMode := .upsert

/-- The plan is read back from its text, names with quotes and fractions of seconds included. -/
theorem fractionalOrders_reread :
    (∀ e ∈ fractionalOrders.allExpressions, e.ReadsBack) ∧ (∀ e ∈ fractionalOrders.allExpressions, e.IsFinite) ∧
      (Json.read? fractionalOrders.snapshot).bind decode = some fractionalOrders := by
  have hliteral : ∀ e ∈ fractionalOrders.allExpressions, ∀ v, .literal v ∈ e.nodes → v = .float 0.5 := by
    simp [fractionalOrders, allExpressions, Predicate.ofExpr, Selection.itemList, Expr.nodes, argNodes]
  have htext : numberLayout.write 0.5 = "0.5" := by decide +kernel
  have hhalf : ReadsBack 0.5 := by
    intro _
    rw [htext]
    rfl
  have hreads : ∀ e ∈ fractionalOrders.allExpressions, e.ReadsBack := by
    intro e he v hv
    rw [hliteral e he v hv]
    exact hhalf
  have hfinite : ∀ e ∈ fractionalOrders.allExpressions, e.IsFinite := by
    intro e he v hv
    have hnumber : Number.isFinite 0.5 = true := by decide +kernel
    rw [hliteral e he v hv]
    exact hnumber
  exact ⟨hreads, hfinite, (decode_snapshot_iff hreads).mpr hfinite⟩

end Plan

end FlinkSql
