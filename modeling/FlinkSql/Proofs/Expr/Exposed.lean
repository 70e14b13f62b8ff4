import FlinkSql.Proofs.Expr.Comment
import FlinkSql.Proofs.Function.Exposed

/-!
# Exposed parts of expressions

What is written for a shaped expression exposes what is written for its parts, and so for its nodes: each stands in the text behind
a closed one, and is read there as it would be on its own. Only a literal may be missing: the NULL of a test, and what a rule
writes in another form. So every column of the expression stands in the text.
-/

namespace FlinkSql

open Text

namespace Expr

variable {a : Aliases} {e child n : Expr} {text t : String}

/-! ## Parts -/

/-- The words of forms are closed. -/
theorem closed_words : ∀ words ∈ openings ++ innerWords ++ closings, Closed words := by decide +kernel

/-- What is written for an expression is closed. -/
theorem closed_sql (ha : ∀ output ∈ a.output, Neutral output) (h : e.sql .standard a = .ok text) : Closed text :=
  ((neutral_sql ha e).value h).closed

/-- A form exposes the parts that it writes. -/
theorem exposes_of_form (ha : ∀ output ∈ a.output, Neutral output) {form : Form} (hform : e.form? = some form)
    (h : e.sql .standard a = .ok text) (hpart : .part child ∈ form.inner) (ht : child.sql .standard a = .ok t) :
    Exposes t text := by
  have hknown := isKnown_of_form hform
  obtain ⟨texts, htexts, rfl⟩ := eq_of_form hform h
  have hclosed : ∀ u ∈ texts, Closed u := by
    intro u hu
    obtain ⟨segment, hsegment, hsql⟩ := exists_of_forall₂ htexts.flip u hu
    cases segment with
    | words words =>
      cases hsql
      exact closed_words u (List.mem_append_left _ (List.mem_append_right _ (hknown.inner u hsegment)))
    | part part => exact closed_sql ha hsql
  have hopening := closed_words _ (List.mem_append_left _ (List.mem_append_left _ hknown.opening))
  obtain ⟨u, hu, hsql⟩ := exists_of_forall₂ htexts _ hpart
  cases hsql.symm.trans ht
  exact ((exposes_join hclosed hu).behind hopening).then _

/-- A call of the right shape exposes its arguments, but for literals that are no decimals. -/
theorem exposes_of_call {f : FunctionName} {receiver : Option Expr} {args : List Expr} (hshaped : Call.IsShaped ⟨f, receiver, args⟩)
    (ha : ∀ output ∈ a.output, Neutral output) (h : (call f receiver args).sql .standard a = .ok text)
    (hchild : child ∈ parts receiver args) (ht : child.sql .standard a = .ok t) :
    Exposes t text ∨ ∃ v, child = .literal v ∧ v.IsNoDecimal := by
  rw [sql_call] at h
  obtain ⟨rendered, hrendered, h⟩ := bind_eq_ok.mp h
  have hneutral : ∀ u ∈ rendered, Neutral u := forall_of_mapM_eq_ok hrendered fun part _ _ hu => (neutral_sql ha part).value hu
  have hlength := (length_of_mapM_eq_ok hrendered).trans hshaped.arity_eq.symm
  obtain ⟨i, hi⟩ := List.mem_iff_getElem?.mp hchild
  rcases getElem?_of_mapM_eq_ok hrendered i with ⟨hnone, -⟩ | ⟨part, u, hpart, hu, hsql⟩
  · cases hnone.symm.trans hi
  · cases hpart.symm.trans hi
    cases hsql.symm.trans ht
    refine (Registry.exposedAt_write hlength hneutral h i t hu).imp_right ?_
    rintro ⟨v, hv, hdecimal⟩
    rw [raw_eq, hpart] at hv
    exact ⟨v, Option.some.inj hv, hdecimal⟩

/-- What is written for a shaped expression exposes its parts, but for literals that are no decimals. -/
theorem exposes_child (hshaped : e.IsShaped) (ha : ∀ output ∈ a.output, Neutral output) (h : e.sql .standard a = .ok text)
    (hchild : child ∈ e.children) (ht : child.sql .standard a = .ok t) :
    Exposes t text ∨ ∃ v, child = .literal v ∧ v.IsNoDecimal := by
  cases e using sqlCases with
  | literal v => cases hchild
  | column p name => cases hchild
  | call f receiver args => exact exposes_of_call (hshaped f receiver args (mem_nodes_self _)) ha h hchild ht
  | form e form hform =>
    rcases part_or_null hform hchild with hpart | rfl
    · exact Or.inl (exposes_of_form ha hform h hpart ht)
    · exact Or.inr ⟨.null, rfl, fun d hd => by cases hd⟩
  | unwritten e failure _ hnone => cases (hnone .standard a).symm.trans h

/-! ## Nodes -/

/-- What is written for a shaped expression exposes all its nodes, but for literals that are no decimals. -/
theorem exposes_node (hshaped : e.IsShaped) (ha : ∀ output ∈ a.output, Neutral output) (h : e.sql .standard a = .ok text)
    (hn : n ∈ e.nodes) (ht : n.sql .standard a = .ok t) : Exposes t text ∨ ∃ v, n = .literal v ∧ v.IsNoDecimal := by
  induction e using induction_children generalizing text with
  | step e ih =>
    rw [nodes_eq, List.mem_cons] at hn
    rcases hn with rfl | hn
    · cases h.symm.trans ht
      exact Or.inl (exposes_self t)
    · obtain ⟨child, hchild, hmem⟩ := List.mem_flatMap.mp hn
      obtain ⟨u, hu⟩ := child_written h hchild
      rcases exposes_child hshaped ha h hchild hu with hexposes | ⟨v, rfl, hdecimal⟩
      · exact (ih child hchild (hshaped.child hchild) hu hmem).imp_left fun hinner => hinner.trans hexposes
      · rw [nodes, List.mem_singleton] at hmem
        exact Or.inr ⟨v, hmem, hdecimal⟩

/-! ## Columns -/

/-- The columns of sources among the nodes stand in the text outside quoted regions, each behind the alias of the last position of
its row type. -/
def ColumnsExposed (sources : List String) (nodes : List Expr) (text : String) : Prop :=
  ∀ p name row, .column p name ∈ nodes → p.row = some row → ∃ i, IsLast row sources i ∧
    Exposes (tableAlias i ++ "." ++ Name.quotedColumn name) text

/-- What exposes the text exposes the columns. -/
theorem ColumnsExposed.trans {sources : List String} {nodes : List Expr} {whole : String}
    (h : ColumnsExposed sources nodes text) (htext : Exposes text whole) : ColumnsExposed sources nodes whole := by
  intro p name row hcolumn hrow
  obtain ⟨i, hi, hexposes⟩ := h p name row hcolumn hrow
  exact ⟨i, hi, hexposes.trans htext⟩

/-- What is written for a shaped expression exposes its columns. -/
theorem columnsExposed_sql (hshaped : e.IsShaped) (ha : ∀ output ∈ a.output, Neutral output) (h : e.sql .standard a = .ok text) :
    ColumnsExposed a.sources e.nodes text := by
  intro p name row hcolumn hrow
  obtain ⟨i, hi, hsql⟩ := columnsByPosition_of_written h p name row hcolumn hrow
  refine ⟨i, hi, ?_⟩
  rcases exposes_node hshaped ha h hcolumn (hsql a.output) with hexposes | ⟨v, hliteral, -⟩
  · exact hexposes
  · cases hliteral

/-! ## Shapes of rewritten expressions -/

/-- What is rewritten in its parts to a call is a call of the same function, with a receiver or without one alike. -/
theorem eq_of_rewrite_call {f : Expr → Option Expr} {g : FunctionName} {receiver : Option Expr} {args : List Expr}
    (hnone : f e = none) (h : .call g receiver args = e.rewrite f) :
    ∃ receiver' args', e = .call g receiver' args' ∧ receiver'.isSome = receiver.isSome := by
  cases e with
  | call g' receiver' args' =>
    rw [rewrite_call hnone] at h
    cases h
    exact ⟨receiver', args', rfl, Option.isSome_map.symm⟩
  | _ =>
    rw [rewrite, hnone] at h
    cases h

/-- A rewriting of a shaped expression is shaped, if what replaces its nodes is. -/
theorem IsShaped.rewrite {f : Expr → Option Expr} (h : e.IsShaped)
    (hf : ∀ m ∈ e.nodes, ∀ replacement, f m = some replacement → replacement.IsShaped) : (e.rewrite f).IsShaped := by
  intro g receiver args hcall
  rcases node_of_mem_rewrite hcall with ⟨m, hm, hnone, hrewrite⟩ | ⟨m, hm, replacement, hanswer, hmem⟩
  · obtain ⟨receiver', args', rfl, hreceiver⟩ := eq_of_rewrite_call hnone hrewrite
    have hshape := h g receiver' args' hm
    rw [Call.IsShaped] at hshape ⊢
    exact hreceiver.symm.trans hshape
  · exact hf m hm replacement hanswer g receiver args hmem

end Expr

end FlinkSql
