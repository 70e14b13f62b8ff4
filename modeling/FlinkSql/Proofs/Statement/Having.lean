import FlinkSql.Proofs.Expr.References
import FlinkSql.Proofs.Statement.Writing
import Mathlib.Data.List.Forall2

/-!
# Conditions on groups are substitution

`Having.Inlined` says what it is to replace the references to the projected row in a condition, node by node and without saying
how it is done. Where a projection names its items, a condition on groups is written as the SQL of the one expression that is
the condition so inlined; a reference that no item stands for makes the whole unsupported.
-/

namespace FlinkSql

open Plan

namespace Having

/-! ## Inlining as a relation -/

/-- The second expression is the first with every output column replaced by the item of that label, every output row by the only
item of a scalar projection, and every other node as it is. -/
inductive Inlined (items : List Item) : Expr → Expr → Prop
  | outputColumn (p : Param) (name : String) (item : Item) (hp : p.isOutput = true) (hitem : item ∈ items)
      (hlabel : Name.column item.label = Name.column name) : Inlined items (.column p name) item.expr
  | outputRow (p : Param) (e : Expr) (hp : p.isOutput = true) (hitems : items = [⟨Selection.scalarLabel, e⟩]) :
      Inlined items (.row p) e
  | sourceColumn (p : Param) (name : String) (hp : p.isOutput = false) : Inlined items (.column p name) (.column p name)
  | sourceRow (p : Param) (hp : p.isOutput = false) : Inlined items (.row p) (.row p)
  | literal (v : Literal) : Inlined items (.literal v) (.literal v)
  | member {target target' : Expr} (name : String) (h : Inlined items target target') :
      Inlined items (.member target name) (.member target' name)
  | unary {operand operand' : Expr} (op : UnaryOp) (h : Inlined items operand operand') :
      Inlined items (.unary op operand) (.unary op operand')
  | binary {left left' right right' : Expr} (op : BinaryOp) (hl : Inlined items left left')
      (hr : Inlined items right right') : Inlined items (.binary op left right) (.binary op left' right')
  | conditional {test test' yes yes' no no' : Expr} (ht : Inlined items test test') (hy : Inlined items yes yes')
      (hn : Inlined items no no') : Inlined items (.conditional test yes no) (.conditional test' yes' no')
  | coalesce {left left' right right' : Expr} (hl : Inlined items left left') (hr : Inlined items right right') :
      Inlined items (.coalesce left right) (.coalesce left' right')
  | call {receiver receiver' : Option Expr} {args args' : List Expr} (f : FunctionName)
      (hreceiver : Option.Rel (Inlined items) receiver receiver') (hargs : List.Forall₂ (Inlined items) args args') :
      Inlined items (.call f receiver args) (.call f receiver' args')
  | record {members members' : List (String × Expr)} (hnames : members.map (·.1) = members'.map (·.1))
      (hvalues : List.Forall₂ (Inlined items) (members.map (·.2)) (members'.map (·.2))) :
      Inlined items (.record members) (.record members')

variable {items : List Item}

/-! ## What the rewriting does -/

/-- Whether a node refers to the projected row. -/
def ofOutput (e : Expr) : Bool := e.param?.any Param.isOutput

/-- Only references are inlined. -/
theorem reference_of_inlined? {e replacement : Expr} (h : inlined? items e = some replacement) : e.param?.isSome := by
  unfold inlined? at h
  split at h
  · rfl
  · rfl
  · cases h

/-- A node that does not refer to the projected row is not inlined. -/
theorem inlined?_eq_none {e : Expr} (h : ofOutput e = false) : inlined? items e = none := by
  cases e with
  | column p name => exact if_neg (Bool.eq_false_iff.mp h)
  | row p => exact if_neg (Bool.eq_false_iff.mp h)
  | _ => rfl

/-- A node that refers to the projected row is a reference. -/
theorem reference_of_ofOutput {e : Expr} (h : ofOutput e = true) : e.param?.isSome := by
  rw [ofOutput, Option.any_eq_true] at h
  obtain ⟨q, hq, -⟩ := h
  exact Option.isSome_iff_exists.mpr ⟨q, hq⟩

/-- A label that some item has is found, and with it an item of that label. -/
theorem itemNamed?_eq_some {name : String} {item : Item} (h : itemNamed? items name = some item) :
    item ∈ items ∧ Name.column item.label = Name.column name := by
  have hlabel := List.find?_some h
  exact ⟨List.mem_of_find?_eq_some h, beq_iff_eq.mp hlabel⟩

/-- A label is not found if no item has it. -/
theorem itemNamed?_eq_none_iff {name : String} :
    itemNamed? items name = none ↔ ∀ item ∈ items, Name.column item.label ≠ Name.column name := by
  rw [itemNamed?, List.find?_eq_none]
  simp only [beq_iff_eq]

/-- Where labels do not collide, an item is found by its label. -/
theorem itemNamed?_of_mem (hlabels : (labels items).Nodup) {item : Item} (hitem : item ∈ items) {name : String}
    (hlabel : Name.column item.label = Name.column name) : itemNamed? items name = some item := by
  cases hfound : itemNamed? items name with
  | none => exact absurd hlabel (itemNamed?_eq_none_iff.mp hfound item hitem)
  | some other =>
    obtain ⟨hother, hlabel'⟩ := itemNamed?_eq_some hfound
    rw [List.inj_on_of_nodup_map hlabels hother hitem (hlabel'.trans hlabel.symm)]

/-- A projection is a scalar if its only item has the label of scalars. -/
theorem scalar?_eq_some_iff {e : Expr} : scalar? items = some e ↔ items = [⟨Selection.scalarLabel, e⟩] := by
  unfold scalar?
  split
  · rename_i item
    obtain ⟨label, expr⟩ := item
    simp only [List.cons.injEq, Item.mk.injEq, and_true]
    split
    · rename_i hlabel
      exact ⟨fun h => ⟨hlabel, Option.some.inj h⟩, fun h => congrArg some h.2⟩
    · rename_i hlabel
      exact ⟨nofun, fun h => absurd h.1 hlabel⟩
  · rename_i hne
    exact ⟨nofun, fun h => absurd h (hne _)⟩

/-- What answers for a reference is inlined for it. -/
theorem inlined_of_answer {e replacement : Expr} (h : inlined? items e = some replacement) : Inlined items e replacement := by
  cases e with
  | column p name =>
    obtain ⟨hp, hanswer⟩ := Option.ite_none_right_eq_some.mp h
    obtain ⟨item, hfound, rfl⟩ := Option.map_eq_some_iff.mp hanswer
    obtain ⟨hitem, hlabel⟩ := itemNamed?_eq_some hfound
    exact .outputColumn p name item hp hitem hlabel
  | row p =>
    obtain ⟨hp, hanswer⟩ := Option.ite_none_right_eq_some.mp h
    exact .outputRow p replacement hp (scalar?_eq_some_iff.mp hanswer)
  | _ => cases h

/-- A reference that is answered for, or needs no answer, is inlined by the rewriting. -/
theorem inlined_reference {e : Expr} (href : e.param?.isSome) (h : ofOutput e = true → (inlined? items e).isSome) :
    Inlined items e (e.rewrite (inlined? items)) := by
  cases hout : ofOutput e with
  | true =>
    obtain ⟨replacement, hanswer⟩ := Option.isSome_iff_exists.mp (h hout)
    rw [Expr.rewrite_of_some hanswer]
    exact inlined_of_answer hanswer
  | false =>
    rw [Expr.rewrite_reference href (inlined?_eq_none hout)]
    cases e with
    | column p name => exact .sourceColumn p name hout
    | row p => exact .sourceRow p hout
    | _ => cases href

/-- Each reference to the projected row in an expression is answered for. -/
def Answered (items : List Item) (e : Expr) : Prop :=
  ∀ n ∈ e.nodes, ofOutput n = true → (inlined? items n).isSome

/-- Where all references are answered for, those of each part are. -/
theorem Answered.child {e child : Expr} (h : Answered items e) (hchild : child ∈ e.children) : Answered items child :=
  fun n hn => h n (Expr.mem_nodes_of_child hchild hn)

/-- A condition whose references to the projected row are all answered for is inlined by the rewriting. -/
theorem inlined_rewrite {e : Expr} (h : Answered items e) : Inlined items e (e.rewrite (inlined? items)) := by
  induction e using Expr.induction with
  | literal v =>
    rw [Expr.rewrite, inlined?_eq_none (e := .literal v) rfl]
    exact .literal v
  | column p name => exact inlined_reference rfl (h _ (Expr.mem_nodes_self _))
  | row p => exact inlined_reference rfl (h _ (Expr.mem_nodes_self _))
  | member target name ih =>
    rw [Expr.rewrite, inlined?_eq_none (e := .member target name) rfl]
    exact .member name (ih (h.child List.mem_cons_self))
  | unary op operand ih =>
    rw [Expr.rewrite, inlined?_eq_none (e := .unary op operand) rfl]
    exact .unary op (ih (h.child List.mem_cons_self))
  | binary op left right ihl ihr =>
    rw [Expr.rewrite, inlined?_eq_none (e := .binary op left right) rfl]
    exact .binary op (ihl (h.child List.mem_cons_self)) (ihr (h.child (List.mem_cons_of_mem _ List.mem_cons_self)))
  | conditional test yes no iht ihy ihn =>
    rw [Expr.rewrite, inlined?_eq_none (e := .conditional test yes no) rfl]
    exact .conditional (iht (h.child List.mem_cons_self)) (ihy (h.child (List.mem_cons_of_mem _ List.mem_cons_self)))
      (ihn (h.child (List.mem_cons_of_mem _ (List.mem_cons_of_mem _ List.mem_cons_self))))
  | coalesce left right ihl ihr =>
    rw [Expr.rewrite, inlined?_eq_none (e := .coalesce left right) rfl]
    exact .coalesce (ihl (h.child List.mem_cons_self)) (ihr (h.child (List.mem_cons_of_mem _ List.mem_cons_self)))
  | call f receiver args ihr iha =>
    rw [Expr.rewrite_call rfl]
    refine .call f ?_ ?_
    · cases receiver with
      | none => exact .none
      | some r => exact .some (ihr r rfl (h.child (List.mem_append_left _ List.mem_cons_self)))
    · refine List.forall₂_map_right_iff.mpr (List.forall₂_same.mpr fun e he => ?_)
      exact iha e he (h.child (List.mem_append_right _ he))
  | record members ih =>
    rw [Expr.rewrite_record rfl]
    refine .record ?_ ?_
    · rw [List.map_map]
      rfl
    · rw [List.map_map, List.forall₂_map_left_iff, List.forall₂_map_right_iff]
      refine List.forall₂_same.mpr fun m hm => ih m hm (h.child (List.mem_map_of_mem hm))

/-! ## One way only -/

/-- Where a relation determines the partner of each element, a list is related to its image only. -/
theorem eq_map_of_forall₂ {R : Expr → Expr → Prop} {f : Expr → Expr} {l partners : List Expr}
    (hR : ∀ e ∈ l, ∀ partner, R e partner → partner = f e) (h : List.Forall₂ R l partners) : partners = l.map f := by
  induction h with
  | nil => rfl
  | cons hhead _ ih =>
    obtain ⟨hfirst, hrest⟩ := List.forall_mem_cons.mp hR
    rw [List.map_cons, hfirst _ hhead, ih hrest]

/-- Where labels do not collide, what is inlined for a reference is what it is rewritten to. -/
theorem Inlined.eq_rewrite_reference (hlabels : (labels items).Nodup) {e s : Expr} (href : e.param?.isSome)
    (h : Inlined items e s) : s = e.rewrite (inlined? items) := by
  cases h with
  | outputColumn p name item hp hitem hlabel =>
    have hanswer : inlined? items (.column p name) = some item.expr := by
      rw [inlined?, if_pos hp, itemNamed?_of_mem hlabels hitem hlabel]
      rfl
    rw [Expr.rewrite_of_some hanswer]
  | outputRow p _ hp hitems =>
    have hanswer : inlined? items (.row p) = some s := by
      rw [inlined?, if_pos hp, scalar?_eq_some_iff.mpr hitems]
    rw [Expr.rewrite_of_some hanswer]
  | sourceColumn p name hp => rw [Expr.rewrite_reference (e := .column p name) rfl (inlined?_eq_none hp)]
  | sourceRow p hp => rw [Expr.rewrite_reference (e := .row p) rfl (inlined?_eq_none hp)]
  | _ => cases href

/-- Where labels do not collide, a condition is inlined as the rewriting does it. -/
theorem Inlined.eq_rewrite (hlabels : (labels items).Nodup) {e s : Expr} (h : Inlined items e s) :
    s = e.rewrite (inlined? items) := by
  induction e using Expr.induction generalizing s with
  | literal v =>
    cases h
    rw [Expr.rewrite, inlined?_eq_none (e := .literal v) rfl]
  | column p name => exact h.eq_rewrite_reference hlabels rfl
  | row p => exact h.eq_rewrite_reference hlabels rfl
  | member target name ih =>
    cases h with
    | member _ h => rw [Expr.rewrite, inlined?_eq_none (e := .member target name) rfl, ih h]
  | unary op operand ih =>
    cases h with
    | unary _ h => rw [Expr.rewrite, inlined?_eq_none (e := .unary op operand) rfl, ih h]
  | binary op left right ihl ihr =>
    cases h with
    | binary _ hl hr => rw [Expr.rewrite, inlined?_eq_none (e := .binary op left right) rfl, ihl hl, ihr hr]
  | conditional test yes no iht ihy ihn =>
    cases h with
    | conditional ht hy hn =>
      rw [Expr.rewrite, inlined?_eq_none (e := .conditional test yes no) rfl, iht ht, ihy hy, ihn hn]
  | coalesce left right ihl ihr =>
    cases h with
    | coalesce hl hr => rw [Expr.rewrite, inlined?_eq_none (e := .coalesce left right) rfl, ihl hl, ihr hr]
  | call f receiver args ihr iha =>
    cases h with
    | call _ hreceiver hargs =>
      rw [Expr.rewrite_call rfl, eq_map_of_forall₂ (fun e he _ => iha e he) hargs]
      cases hreceiver with
      | none => rfl
      | some hr => rw [Option.map_some, ihr _ rfl hr]
  | record members ih =>
    cases h with
    | record hnames hvalues =>
      have hmembers : ∀ e ∈ members.map (·.2), ∀ s, Inlined items e s → s = e.rewrite (inlined? items) := by
        intro e he s
        obtain ⟨m, hm, rfl⟩ := List.mem_map.mp he
        exact ih m hm
      have hsame := eq_map_of_forall₂ hmembers hvalues
      rw [Expr.rewrite_record rfl]
      have hrewritten : (members.map fun m => (m.1, m.2.rewrite (inlined? items))) =
          (members.map (·.1)).zip ((members.map (·.2)).map (Expr.rewrite (inlined? items))) := by
        refine List.zip_of_prod ?_ ?_
        · rw [List.map_map]
          rfl
        · rw [List.map_map, List.map_map]
          rfl
      rw [hrewritten]
      exact congrArg Expr.record (List.zip_of_prod hnames.symm hsame)

/-- A condition is inlined in one way only. -/
theorem Inlined.unique (hlabels : (labels items).Nodup) {e s s' : Expr} (h : Inlined items e s) (h' : Inlined items e s') :
    s = s' :=
  (h.eq_rewrite hlabels).trans (h'.eq_rewrite hlabels).symm

/-! ## The references that are left -/

/-- If no reference to the projected row is left after the rewriting, all of them are answered for. -/
theorem answered_of_rewrite {e : Expr} (h : ∀ n ∈ (e.rewrite (inlined? items)).nodes, ofOutput n = false) :
    Answered items e := by
  intro n hn hout
  rw [Option.isSome_iff_ne_none]
  intro hnone
  have hleft := Expr.mem_nodes_rewrite (fun _ _ => reference_of_inlined?) (reference_of_ofOutput hout) hnone hn
  rw [h n hleft] at hout
  cases hout

/-! ## The condition in SQL -/

variable {functions : Registry} {p : Plan} {condition : Expr} {text : String}

/-- An expression has no output row among its parameters when none of its nodes refers to one. -/
theorem find?_params_eq_none_iff {e : Expr} : e.params.find? Param.isOutput = none ↔ ∀ n ∈ e.nodes, ofOutput n = false := by
  rw [List.find?_eq_none]
  constructor
  · intro h n hn
    rw [ofOutput, Option.any_eq_false]
    intro q hq
    exact Bool.eq_false_iff.mpr (h q (Expr.mem_params.mpr ⟨n, hn, hq⟩))
  · intro h q hq hout
    obtain ⟨n, hn, hparam⟩ := Expr.mem_params.mp hq
    have hnone := h n hn
    rw [ofOutput, hparam, Option.any_some, hout] at hnone
    cases hnone

/-- Where the projection names items, the condition is written as the rewritten one, unless that refers to the projected row. -/
theorem sql_of_items (hitems : p.selection.itemList ≠ []) :
    sql functions p condition =
      ((condition.rewrite (inlined? p.selection.itemList)).params.find? Param.isOutput).elim
        ((condition.rewrite (inlined? p.selection.itemList)).sql functions p.aliases)
        fun q => .error (.expression (.notProjected (reference (condition.rewrite (inlined? p.selection.itemList)) q))) := by
  have hempty : ¬p.selection.itemList.isEmpty = true := fun h => hitems (List.isEmpty_iff.mp h)
  rw [sql]
  simp only
  rw [if_neg hempty]
  split
  · rename_i hsome
    rw [hsome]
    rfl
  · rename_i hnone
    rw [hnone]
    rfl

/-- The condition is written when the rewritten one does not refer to the projected row, and is written. -/
theorem sql_eq_ok_iff (hitems : p.selection.itemList ≠ []) :
    sql functions p condition = .ok text ↔
      (∀ n ∈ (condition.rewrite (inlined? p.selection.itemList)).nodes, ofOutput n = false) ∧
        (condition.rewrite (inlined? p.selection.itemList)).sql functions p.aliases = .ok text := by
  rw [← find?_params_eq_none_iff, sql_of_items hitems]
  cases (condition.rewrite (inlined? p.selection.itemList)).params.find? Param.isOutput with
  | none => exact ⟨fun h => ⟨rfl, h⟩, And.right⟩
  | some q => exact ⟨nofun, nofun⟩

/-- A reference to the projected row that no item stands for makes the condition unsupported. -/
theorem sql_of_unanswered (hitems : p.selection.itemList ≠ []) (h : ¬Answered p.selection.itemList condition) :
    ∃ f, sql functions p condition = .error f ∧ f.kind = .unsupported := by
  rw [sql_of_items hitems]
  cases hfound : (condition.rewrite (inlined? p.selection.itemList)).params.find? Param.isOutput with
  | none => exact absurd (answered_of_rewrite (find?_params_eq_none_iff.mp hfound)) h
  | some q => exact ⟨_, rfl, rfl⟩

/-- A reference to the projected row that no item stands for: a column with another label, or the row itself where the
projection is no single scalar. -/
def Missing (items : List Item) (e : Expr) : Prop :=
  (∃ q name, .column q name ∈ e.nodes ∧ q.isOutput = true ∧ ∀ item ∈ items, Name.column item.label ≠ Name.column name) ∨
    ∃ q, .row q ∈ e.nodes ∧ q.isOutput = true ∧ ∀ scalar, items ≠ [⟨Selection.scalarLabel, scalar⟩]

theorem not_answered_of_missing {e : Expr} (h : Missing items e) : ¬Answered items e := by
  intro hanswered
  rcases h with ⟨q, name, hmem, hq, hnone⟩ | ⟨q, hmem, hq, hnone⟩
  · have hanswer := hanswered _ hmem hq
    rw [inlined?, if_pos hq, itemNamed?_eq_none_iff.mpr hnone] at hanswer
    cases hanswer
  · have hanswer := hanswered _ hmem hq
    rw [inlined?, if_pos hq] at hanswer
    obtain ⟨scalar, hscalar⟩ := Option.isSome_iff_exists.mp hanswer
    exact hnone scalar (scalar?_eq_some_iff.mp hscalar)

/-- An output column that is answered for names one item, if labels do not collide. -/
theorem existsUnique_item (hlabels : (labels items).Nodup) {q : Param} {name : String} (hq : q.isOutput = true)
    (h : (inlined? items (.column q name)).isSome) :
    ∃! i : Fin items.length, Name.column items[i].label = Name.column name := by
  rw [inlined?, if_pos hq, Option.isSome_map, Option.isSome_iff_exists] at h
  obtain ⟨item, hfound⟩ := h
  obtain ⟨hitem, hlabel⟩ := itemNamed?_eq_some hfound
  obtain ⟨i, hi, rfl⟩ := List.mem_iff_getElem.mp hitem
  refine ⟨⟨i, hi⟩, hlabel, ?_⟩
  rintro ⟨j, hj⟩ hother
  have hlength : (labels items).length = items.length := List.length_map _
  have hsame : (labels items).get ⟨j, hlength ▸ hj⟩ = (labels items).get ⟨i, hlength ▸ hi⟩ := by
    simp only [labels, List.get_eq_getElem, List.getElem_map]
    exact hother.trans hlabel.symm
  have hindex := congrArg Fin.val (List.nodup_iff_injective_get.mp hlabels hsame)
  exact Fin.ext hindex

end Having

namespace Plan

variable {functions : Registry} {p : Plan} {condition : Expr} {text : String}

/-- A statement is written up to its grouping keys when it is legal, and written without its condition on groups. -/
theorem groupedSql_eq_ok_iff :
    p.groupedSql functions = .ok text ↔ p.Legal ∧ { p with having := none }.selectSql functions = .ok text := by
  by_cases hp : p.Legal
  · have hp' : { p with having := none }.Legal :=
      ⟨hp.source, hp.topics, hp.joins, hp.window, hp.slide, fun h => absurd h Bool.false_ne_true, hp.grouping, hp.labels⟩
    have hsame : { p with having := none }.groupedSql functions = p.groupedSql functions := by
      rw [groupedSql, groupedSql, check_eq_ok_iff.mpr hp, check_eq_ok_iff.mpr hp']
      rfl
    have hselect : { p with having := none }.selectSql functions = p.groupedSql functions := by
      rw [selectSql, hsame]
      exact bind_pure _
    rw [hselect]
    exact ⟨fun h => ⟨hp, h⟩, And.right⟩
  · obtain ⟨f, hf⟩ := Option.ne_none_iff_exists'.mp (mt fault?_eq_none_iff.mp hp)
    have hgrouped : p.groupedSql functions = .error f := by
      rw [groupedSql, check, hf]
      rfl
    rw [hgrouped]
    constructor
    · intro h
      cases h
    · intro h
      exact absurd h.1 hp

/-- A statement with a condition on groups is the one without it, and then the condition. -/
theorem selectSql_having (hhaving : p.having = some condition) :
    p.selectSql functions = .ok text ↔ ∃ grouped having, p.groupedSql functions = .ok grouped ∧
      Having.sql functions p condition = .ok having ∧ text = grouped ++ " HAVING " ++ having := by
  rw [selectSql, bind_eq_ok]
  simp only [hhaving, bind_eq_ok]
  constructor
  · rintro ⟨grouped, hgrouped, having, hsql, htext⟩
    exact ⟨grouped, having, hgrouped, hsql, (Except.ok.inj htext).symm⟩
  · rintro ⟨grouped, having, hgrouped, hsql, rfl⟩
    exact ⟨grouped, hgrouped, having, hsql, rfl⟩

/-- A condition on groups that fails makes the statement fail. -/
theorem selectSql_of_having (hhaving : p.having = some condition) (hgrouped : p.groupedSql functions = .ok text) {f : Failure}
    (hf : Having.sql functions p condition = .error f) : p.selectSql functions = .error f := by
  rw [selectSql, hgrouped, hhaving]
  show (Having.sql functions p condition >>= fun having => pure (text ++ " HAVING " ++ having)) = _
  rw [hf]
  rfl

/-- Where a projection names items, a condition on groups is substitution. If the plan is written, each output column in the
condition names exactly one item; the condition is inlined in exactly one way; what stands behind HAVING is the SQL of the
inlined condition, and what stands before it is the plan without the condition. No reference to the projected row is left, so an
alias for that row would make no difference. If the plan is written but for its condition, and a reference in the condition has
no item to stand for it, the plan fails as unsupported. -/
theorem having_is_substitution (p : Plan) (condition : Expr) (hitems : p.selection.itemList ≠ [])
    (hhaving : p.having = some condition) :
    (∀ text, p.selectSql .standard = .ok text →
      (∀ q name, .column q name ∈ condition.nodes → q.isOutput = true →
        ∃! i : Fin p.selection.itemList.length, Name.column p.selection.itemList[i].label = Name.column name) ∧
      ∃ inlined grouped having,
        Having.Inlined p.selection.itemList condition inlined ∧
        (∀ other, Having.Inlined p.selection.itemList condition other → other = inlined) ∧
        { p with having := none }.selectSql .standard = .ok grouped ∧
        inlined.sql .standard ⟨p.sourceTypes, none⟩ = .ok having ∧
        text = grouped ++ " HAVING " ++ having ∧
        (∀ q ∈ inlined.params, q.isOutput = false) ∧
        ∀ output, inlined.sql .standard ⟨p.sourceTypes, output⟩ = .ok having) ∧
    (p.Legal → (∃ grouped, { p with having := none }.selectSql .standard = .ok grouped) →
      Having.Missing p.selection.itemList condition → ∃ f, p.selectSql .standard = .error f ∧ f.kind = .unsupported) := by
  refine ⟨fun text htext => ?_, fun hlegal hrest hmissing => ?_⟩
  · obtain ⟨grouped, having, hgrouped, hsql, rfl⟩ := (selectSql_having hhaving).mp htext
    obtain ⟨hlegal, hselect⟩ := groupedSql_eq_ok_iff.mp hgrouped
    obtain ⟨hleft, hwritten⟩ := (Having.sql_eq_ok_iff hitems).mp hsql
    have hanswered := Having.answered_of_rewrite hleft
    have hinlined := Having.inlined_rewrite hanswered
    have hparams : ∀ q ∈ (condition.rewrite (Having.inlined? p.selection.itemList)).params, q.isOutput = false := by
      have hnone := List.find?_eq_none.mp (Having.find?_params_eq_none_iff.mpr hleft)
      exact fun q hq => Bool.eq_false_iff.mpr (hnone q hq)
    refine ⟨fun q name hcolumn hq => Having.existsUnique_item hlegal.labels hq (hanswered _ hcolumn hq), ?_⟩
    refine ⟨_, grouped, having, hinlined, fun other hother => hother.unique hlegal.labels hinlined, hselect, hwritten, rfl,
      hparams, fun output => ?_⟩
    rw [← hwritten]
    exact Expr.sql_congr fun n hn q hq => Aliases.resolve_source (hparams q (Expr.mem_params.mpr ⟨n, hn, hq⟩)) rfl
  · obtain ⟨grouped, hselect⟩ := hrest
    have hfails : ∃ f, Having.sql .standard p condition = .error f ∧ f.kind = .unsupported :=
      Having.sql_of_unanswered hitems (Having.not_answered_of_missing hmissing)
    obtain ⟨f, hf, hkind⟩ := hfails
    exact ⟨f, selectSql_of_having hhaving (groupedSql_eq_ok_iff.mpr ⟨hlegal, hselect⟩) hf, hkind⟩

/-- Orders by customer with what was spent, of those that a condition on the projected row holds of. -/
def spending (condition : Expr) : Plan where
  sourceTypes := ["Order"]
  sourceTopics := []
  joins := []
  wheres := []
  projection := none
  selection := .items [⟨"Customer", .column ⟨"o", some "Order"⟩ "CustomerId"⟩,
    ⟨"Spent", .call ⟨.aggregate, "sum"⟩ none [.column ⟨"o", some "Order"⟩ "Amount"]⟩]
  grouping := some (.items [⟨"Customer", .column ⟨"o", some "Order"⟩ "CustomerId"⟩])
  having := some condition
  window := none
  hasGroupBy := true
  hasAggregate := true
  hasHaving := true
  sinkMode := .appendOnly

/-- The condition that a column of the projected row is above a hundred. -/
def aboveHundred (name : String) : Expr := .binary .gt (.column ⟨"r", none⟩ name) (.literal (.integer 100))

/-- The statement with no condition. -/
def spendingSql : String :=
  "SELECT t0.`customerid` AS `customer`, SUM(t0.`amount`) AS `spent` FROM `order` AS t0 GROUP BY t0.`customerid`"

/-- A sum that is asked for by its label is written as the sum; a label that is not projected is refused. -/
theorem spending_having :
    (∃ inlined having, Having.Inlined (spending (aboveHundred "spent")).selection.itemList (aboveHundred "spent") inlined ∧
      inlined.sql .standard ⟨["Order"], none⟩ = .ok having ∧
      (spending (aboveHundred "spent")).selectSql .standard = .ok (spendingSql ++ " HAVING " ++ having)) ∧
    ∃ f, (spending (aboveHundred "Price")).selectSql .standard = .error f ∧ f.kind = .unsupported := by
  have hgrouped : { spending (aboveHundred "spent") with having := none }.selectSql .standard = .ok spendingSql :=
    eq_ok_of_toOption (by decide +kernel)
  constructor
  · have htext : (spending (aboveHundred "spent")).selectSql .standard =
        .ok (spendingSql ++ " HAVING (SUM(t0.`amount`) > 100)") := eq_ok_of_toOption (by decide +kernel)
    obtain ⟨-, inlined, grouped, having, hinlined, -, hselect, hsql, heq, -⟩ :=
      (having_is_substitution (spending (aboveHundred "spent")) _ (List.cons_ne_nil _ _) rfl).1 _ htext
    cases Except.ok.inj (hgrouped.symm.trans hselect)
    exact ⟨inlined, having, hinlined, hsql, htext.trans (congrArg Except.ok heq)⟩
  · have hlegal : (spending (aboveHundred "Price")).Legal := fault?_eq_none_iff.mp (by decide +kernel)
    have hmissing : Having.Missing (spending (aboveHundred "Price")).selection.itemList (aboveHundred "Price") :=
      Or.inl ⟨⟨"r", none⟩, "Price", List.mem_cons_of_mem _ List.mem_cons_self, rfl, by decide +kernel⟩
    exact (having_is_substitution (spending (aboveHundred "Price")) _ (List.cons_ne_nil _ _) rfl).2 hlegal
      ⟨spendingSql, hgrouped⟩ hmissing

end Plan

end FlinkSql
