import FlinkSql.Proofs.Expr.Form

/-!
# References to parameters

Columns and rows are the nodes that refer to a parameter, and they have no parts. A rewriting that answers for no other node
leaves alone what it has no answer for, and what an expression is in SQL depends on the aliases of its parameters only.
-/

namespace FlinkSql

/-- The alias of a parameter over a source has nothing to do with the one of the output row. -/
theorem Aliases.resolve_source {a a' : Aliases} {q : Param} (hq : q.isOutput = false) (h : a.sources = a'.sources) :
    a.resolve q = a'.resolve q := by
  rw [resolve, resolve, h]
  cases hrow : q.row with
  | none =>
    rw [Param.isOutput, hrow] at hq
    cases hq
  | some row => rfl

namespace Expr

/-- A node that refers to a parameter by itself has no parts. -/
theorem children_of_reference {e : Expr} (h : e.param?.isSome) : e.children = [] := by
  cases e with
  | column p name => rfl
  | row p => rfl
  | _ => cases h

/-- The parameters of an expression are those to which one of its nodes refers. -/
theorem mem_params {e : Expr} {q : Param} : q ∈ e.params ↔ ∃ n ∈ e.nodes, n.param? = some q := by
  rw [params, List.mem_eraseDups, List.mem_filterMap]

/-- A reference without an answer stays as it is. -/
theorem rewrite_reference {f : Expr → Option Expr} {e : Expr} (h : e.param?.isSome) (hnone : f e = none) : e.rewrite f = e := by
  cases e with
  | column p name => rw [rewrite, hnone]
  | row p => rw [rewrite, hnone]
  | _ => cases h

/-- Where only references are answered for, the rewriting of each node is part of the rewriting. -/
theorem nodes_rewrite_subset {f : Expr → Option Expr} (hf : ∀ e replacement, f e = some replacement → e.param?.isSome)
    {e n : Expr} (h : n ∈ e.nodes) : (n.rewrite f).nodes ⊆ (e.rewrite f).nodes := by
  induction e using induction_children with
  | step e ih =>
    rw [nodes_eq, List.mem_cons] at h
    rcases h with rfl | h
    · exact List.Subset.refl _
    · obtain ⟨child, hchild, hmem⟩ := List.mem_flatMap.mp h
      -- an expression with parts is no reference, so the rewriting goes on to its parts
      have he : f e = none := by
        cases hanswer : f e with
        | none => rfl
        | some replacement =>
          rw [children_of_reference (hf e replacement hanswer)] at hchild
          cases hchild
      have hrewritten : child.rewrite f ∈ (e.rewrite f).children := by
        rw [children_rewrite he]
        exact List.mem_map_of_mem hchild
      exact fun m hm => mem_nodes_of_child hrewritten (ih child hchild hmem hm)

/-- Where only references are answered for, a reference without an answer is still there after the rewriting. -/
theorem mem_nodes_rewrite {f : Expr → Option Expr} (hf : ∀ e replacement, f e = some replacement → e.param?.isSome)
    {reference e : Expr} (href : reference.param?.isSome) (hnone : f reference = none) (h : reference ∈ e.nodes) :
    reference ∈ (e.rewrite f).nodes := by
  have hsubset := nodes_rewrite_subset hf h
  rw [rewrite_reference href hnone] at hsubset
  exact hsubset (mem_nodes_self reference)

/-- A node of a rewriting is a node without an answer, rewritten in its parts, or stands in what replaces a node. -/
theorem node_of_mem_rewrite {f : Expr → Option Expr} {e n : Expr} (h : n ∈ (e.rewrite f).nodes) :
    (∃ m ∈ e.nodes, f m = none ∧ n = m.rewrite f) ∨
      ∃ m ∈ e.nodes, ∃ replacement, f m = some replacement ∧ n ∈ replacement.nodes := by
  induction e using induction_children with
  | step e ih =>
    cases hanswer : f e with
    | some replacement =>
      rw [rewrite_of_some hanswer] at h
      exact Or.inr ⟨e, mem_nodes_self e, replacement, hanswer, h⟩
    | none =>
      rw [nodes_eq, List.mem_cons, children_rewrite hanswer] at h
      rcases h with rfl | h
      · exact Or.inl ⟨e, mem_nodes_self e, hanswer, rfl⟩
      · obtain ⟨_, hrewritten, hmem⟩ := List.mem_flatMap.mp h
        obtain ⟨child, hchild, rfl⟩ := List.mem_map.mp hrewritten
        rcases ih child hchild hmem with ⟨m, hm, hleft⟩ | ⟨m, hm, hreplaced⟩
        · exact Or.inl ⟨m, mem_nodes_of_child hchild hm, hleft⟩
        · exact Or.inr ⟨m, mem_nodes_of_child hchild hm, hreplaced⟩

/-- What is rewritten in its parts to a column is that column. -/
theorem eq_of_rewrite_column {f : Expr → Option Expr} {e : Expr} {p : Param} {name : String} (hnone : f e = none)
    (h : .column p name = e.rewrite f) : e = .column p name := by
  cases e with
  | column q other =>
    rw [rewrite, hnone] at h
    exact h.symm
  | call g receiver args =>
    rw [rewrite_call hnone] at h
    cases h
  | _ =>
    rw [rewrite, hnone] at h
    cases h

/-- A column that is there after a rewriting was there before, or is in what replaces a node. -/
theorem column_of_mem_rewrite {f : Expr → Option Expr} {e : Expr} {p : Param} {name : String}
    (h : .column p name ∈ (e.rewrite f).nodes) :
    .column p name ∈ e.nodes ∨ ∃ n ∈ e.nodes, ∃ replacement, f n = some replacement ∧ .column p name ∈ replacement.nodes := by
  rcases node_of_mem_rewrite h with ⟨m, hm, hnone, hcolumn⟩ | hreplaced
  · exact Or.inl (eq_of_rewrite_column hnone hcolumn ▸ hm)
  · exact Or.inr hreplaced

/-- An expression is written alike with aliases that agree on its parameters. -/
theorem sql_congr {functions : Registry} {a a' : Aliases} {e : Expr}
    (h : ∀ n ∈ e.nodes, ∀ q ∈ n.param?, a.resolve q = a'.resolve q) : e.sql functions a = e.sql functions a' := by
  induction e using induction_children with
  | step e ih =>
    have hpart : ∀ child ∈ e.children, child.sql functions a = child.sql functions a' := fun child hchild =>
      ih child hchild fun n hn => h n (mem_nodes_of_child hchild hn)
    cases e using sqlCases with
    | literal v => rw [sql, sql]
    | column p name => rw [sql, sql, h _ (mem_nodes_self _) p rfl]
    | call f receiver args =>
      rw [children] at hpart
      rw [sql_call, sql_call, mapM_congr hpart]
    | form e form hform =>
      have hsegments : ∀ segment ∈ form.inner, segment.sql functions a = segment.sql functions a' := by
        intro segment hsegment
        cases segment with
        | words text => rfl
        | part child => exact hpart child (child_of_part hform hsegment)
      rw [sql_of_form hform, sql_of_form hform, Form.sql, Form.sql, mapM_congr hsegments]
    | unwritten e failure _ hnone => rw [hnone, hnone]

end Expr

end FlinkSql
