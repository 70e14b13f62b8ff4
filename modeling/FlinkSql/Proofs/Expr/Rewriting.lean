import FlinkSql.Proofs.Expr.Position
import FlinkSql.Proofs.Expr.References

/-!
# What a rewriting replaces

Rewriting asks `f` about the nodes that lie below no answer, in the order of the walk. The answers stand verbatim where the nodes
stood, and all other nodes stay what they are apart from their parts: `IsRewriting` says so position by position, and there is
exactly one such expression. That rewriting asks about no other node, and about none in another order, is stated of the same
traversal in any monad, where asking can leave a trace.
-/

namespace FlinkSql

/-! ## Asking with a trace -/

mutual

/-- Rewriting with answers that are found in a monad. -/
def Expr.rewriteM {m : Type → Type} [Monad m] (f : Expr → m (Option Expr)) (e : Expr) : m Expr := do
  match ← f e with
  | some replacement => return replacement
  | none => match e with
    | .literal v => return .literal v
    | .column p name => return .column p name
    | .row p => return .row p
    | .member target name => return .member (← target.rewriteM f) name
    | .unary op operand => return .unary op (← operand.rewriteM f)
    | .binary op left right => return .binary op (← left.rewriteM f) (← right.rewriteM f)
    | .conditional test yes no => return .conditional (← test.rewriteM f) (← yes.rewriteM f) (← no.rewriteM f)
    | .coalesce left right => return .coalesce (← left.rewriteM f) (← right.rewriteM f)
    | .call g none args => return .call g none (← rewriteArgsM f args)
    | .call g (some receiver) args => return .call g (some (← receiver.rewriteM f)) (← rewriteArgsM f args)
    | .record members => return .record (← rewriteMembersM f members)

/-- Rewrites each argument with answers that are found in a monad. -/
def rewriteArgsM {m : Type → Type} [Monad m] (f : Expr → m (Option Expr)) : List Expr → m (List Expr)
  | [] => return []
  | e :: rest => return (← e.rewriteM f) :: (← rewriteArgsM f rest)

/-- Rewrites the value of each member with answers that are found in a monad. -/
def rewriteMembersM {m : Type → Type} [Monad m] (f : Expr → m (Option Expr)) :
    List (String × Expr) → m (List (String × Expr))
  | [] => return []
  | (name, e) :: rest => return (name, ← e.rewriteM f) :: (← rewriteMembersM f rest)

end

namespace Expr

/-! ## The nodes asked about -/

theorem consultedArgs_eq (f : Expr → Option Expr) (args : List Expr) : consultedArgs f args = args.flatMap (consulted f) := by
  induction args with
  | nil => rfl
  | cons e rest ih => rw [consultedArgs, List.flatMap_cons, ih]

theorem consultedMembers_eq (f : Expr → Option Expr) (members : List (String × Expr)) :
    consultedMembers f members = members.flatMap fun m => m.2.consulted f := by
  induction members with
  | nil => rfl
  | cons m rest ih => rw [consultedMembers, List.flatMap_cons, ih]

/-- Below an answer nothing is asked about. -/
theorem consulted_of_some {f : Expr → Option Expr} {e replacement : Expr} (h : f e = some replacement) :
    e.consulted f = [e] := by
  unfold consulted
  rw [h]

/-- Without an answer for the whole, its parts are asked about. -/
theorem consulted_of_none {f : Expr → Option Expr} {e : Expr} (h : f e = none) :
    e.consulted f = e :: e.children.flatMap (consulted f) := by
  cases e with
  | literal v | column p name | row p => rw [consulted, h]; rfl
  | member target name => rw [consulted, h, children, List.flatMap_singleton]
  | unary op operand => rw [consulted, h, children, List.flatMap_singleton]
  | binary op left right => rw [consulted, h, children, List.flatMap_cons, List.flatMap_singleton]
  | conditional test yes no =>
    rw [consulted, h, children, List.flatMap_cons, List.flatMap_cons, List.flatMap_singleton, List.append_assoc]
  | coalesce left right => rw [consulted, h, children, List.flatMap_cons, List.flatMap_singleton]
  | call g receiver args =>
    cases receiver with
    | none => rw [consulted, h, consultedArgs_eq]; rfl
    | some r => rw [consulted, h, consultedArgs_eq]; rfl
  | record members => rw [consulted, h, consultedMembers_eq, children, List.flatMap_map]

/-- Whether a position lies strictly below a node for which `f` has an answer. -/
def isBelow (f : Expr → Option Expr) (e : Expr) (p : List Nat) : Bool :=
  (List.range p.length).any fun k => ((e.at? (p.take k)).bind f).isSome

/-- A position in a part lies below an answer for the whole, or below one within the part. -/
theorem isBelow_cons {f : Expr → Option Expr} {e child : Expr} {i : Nat} (h : e.children[i]? = some child) (p : List Nat) :
    e.isBelow f (i :: p) = ((f e).isSome || child.isBelow f p) := by
  rw [isBelow, isBelow, List.length_cons, List.range_succ_eq_map, List.any_cons, List.any_map]
  simp only [List.take_zero, at?_nil, Option.bind_some, Function.comp_def, Nat.succ_eq_add_one, List.take_succ_cons,
    at?_cons_of_child h]

/-- Without an answer for the whole, a position lies below an answer if it does within its part. -/
theorem isBelow_cons_of_none {f : Expr → Option Expr} {e child : Expr} {i : Nat} (hanswer : f e = none)
    (h : e.children[i]? = some child) (p : List Nat) : e.isBelow f (i :: p) = child.isBelow f p := by
  rw [isBelow_cons h, hanswer, Option.isSome_none, Bool.false_or]

/-- The nodes asked about are those of the walk that lie below no answer, in the order of the walk. -/
theorem consulted_eq (f : Expr → Option Expr) (e : Expr) :
    e.consulted f = (e.places.filter fun place => !e.isBelow f place.1).map Prod.snd := by
  induction e using induction_children with
  | step e ih =>
    rw [places_eq, List.filter_cons_of_pos rfl, List.map_cons, List.filter_flatMap, List.map_flatMap]
    cases hanswer : f e with
    | some replacement =>
      have hnone : (e.children.zipIdx.flatMap fun part =>
          (((part.1.places.map fun q => (part.2 :: q.1, q.2)).filter fun place => !e.isBelow f place.1).map Prod.snd)) = [] := by
        refine List.flatMap_eq_nil_iff.mpr fun part hpart => ?_
        rw [List.filter_map, List.map_map, List.map_eq_nil_iff, List.filter_eq_nil_iff]
        intro q _
        simp only [Function.comp_apply, isBelow_cons (List.mem_zipIdx_iff_getElem?.mp hpart), hanswer, Option.isSome_some,
          Bool.true_or, Bool.not_true, Bool.false_eq_true, not_false_eq_true]
      rw [consulted_of_some hanswer, hnone]
    | none =>
      have hparts : (e.children.zipIdx.flatMap fun part => part.1.consulted f) = e.children.flatMap (consulted f) := by
        rw [← List.flatMap_map Prod.fst (consulted f), List.zipIdx_map_fst]
      rw [consulted_of_none hanswer, ← hparts]
      refine congrArg (e :: ·) (List.flatMap_congr fun part hpart => ?_)
      have hchild : e.children[part.2]? = some part.1 := List.mem_zipIdx_iff_getElem?.mp hpart
      have hkept : ∀ q ∈ part.1.places, (!e.isBelow f (part.2 :: q.1)) = !part.1.isBelow f q.1 :=
        fun q _ => congrArg (!·) (isBelow_cons_of_none hanswer hchild q.1)
      rw [ih part.1 (List.mem_of_getElem? hchild), List.filter_map, List.map_map]
      exact congrArg (List.map Prod.snd) (List.filter_congr hkept).symm

/-! ## Asking with a trace -/

/-- The answer of `f`, with the node it is asked about added to the trace. -/
def traced (f : Expr → Option Expr) (n : Expr) : StateM (List Expr) (Option Expr) := do
  modify (· ++ [n])
  return f n

/-- The computation gives `a` and adds the nodes `seen` to any trace. -/
def Traces {α : Type} (x : StateM (List Expr) α) (a : α) (seen : List Expr) : Prop :=
  ∀ trace, x.run trace = (a, trace ++ seen)

theorem traces_traced (f : Expr → Option Expr) (n : Expr) : Traces (traced f n) (f n) [n] := fun _ => rfl

theorem Traces.ofPure {α : Type} (a : α) : Traces (pure a) a [] := by
  intro trace
  rw [List.append_nil]
  rfl

/-- One computation after the other adds what each of them adds. -/
theorem Traces.bind {α β : Type} {x : StateM (List Expr) α} {g : α → StateM (List Expr) β} {a : α} {b : β}
    {seen seen' : List Expr} (hx : Traces x a seen) (hg : Traces (g a) b seen') : Traces (x >>= g) b (seen ++ seen') := by
  intro trace
  rw [StateT.run_bind, hx trace, ← List.append_assoc]
  exact hg _

/-- A result that is only passed on adds nothing more. -/
theorem Traces.map {α β : Type} {x : StateM (List Expr) α} {a : α} {seen : List Expr} (hx : Traces x a seen) (g : α → β) :
    Traces (do return g (← x)) (g a) seen := by
  have h := hx.bind (g := fun a => Pure.pure (g a)) (Traces.ofPure (g a))
  rwa [List.append_nil] at h

theorem Traces.mapM {α β : Type} {g : α → StateM (List Expr) β} {h : α → β} {k : α → List Expr} {l : List α}
    (hg : ∀ a ∈ l, Traces (g a) (h a) (k a)) : Traces (l.mapM g) (l.map h) (l.flatMap k) := by
  induction l with
  | nil => exact Traces.ofPure []
  | cons a l ih =>
    obtain ⟨hhead, hrest⟩ := List.forall_mem_cons.mp hg
    rw [List.mapM_cons, List.map_cons, List.flatMap_cons]
    exact hhead.bind ((ih hrest).map (h a :: ·))

theorem rewriteArgsM_eq {m : Type → Type} [Monad m] [LawfulMonad m] (f : Expr → m (Option Expr)) (args : List Expr) :
    rewriteArgsM f args = args.mapM (rewriteM f) := by
  induction args with
  | nil => rfl
  | cons e rest ih => rw [rewriteArgsM, List.mapM_cons, ih]

theorem rewriteMembersM_eq {m : Type → Type} [Monad m] [LawfulMonad m] (f : Expr → m (Option Expr))
    (members : List (String × Expr)) :
    rewriteMembersM f members = members.mapM fun member => do return (member.1, ← member.2.rewriteM f) := by
  induction members with
  | nil => rfl
  | cons member rest ih => rw [rewriteMembersM, List.mapM_cons, ih]; simp only [bind_assoc, pure_bind]

/-- Where there is no answer for the whole, asking goes on in the parts. -/
theorem traces_of_none {f : Expr → Option Expr} {e : Expr} (hanswer : f e = none)
    (hparts : ∀ child ∈ e.children, Traces (child.rewriteM (traced f)) (child.rewrite f) (child.consulted f)) :
    Traces (e.rewriteM (traced f)) (e.rewrite f) (e.consulted f) := by
  have hself : Traces (traced f e) none [e] := hanswer ▸ traces_traced f e
  rw [consulted_of_none hanswer, ← List.singleton_append]
  cases e with
  | literal v | column p name | row p =>
    rw [rewriteM, rewrite, hanswer]
    exact hself.bind (Traces.ofPure _)
  | member target name =>
    rw [children, List.forall_mem_singleton] at hparts
    rw [rewriteM, rewrite, hanswer, children, List.flatMap_singleton]
    exact hself.bind (hparts.map (member · name))
  | unary op operand =>
    rw [children, List.forall_mem_singleton] at hparts
    rw [rewriteM, rewrite, hanswer, children, List.flatMap_singleton]
    exact hself.bind (hparts.map (unary op))
  | binary op left right =>
    rw [children, List.forall_mem_cons, List.forall_mem_singleton] at hparts
    rw [rewriteM, rewrite, hanswer, children, List.flatMap_cons, List.flatMap_singleton]
    exact hself.bind (hparts.1.bind (hparts.2.map (binary op (left.rewrite f))))
  | conditional test yes no =>
    rw [children, List.forall_mem_cons, List.forall_mem_cons, List.forall_mem_singleton] at hparts
    rw [rewriteM, rewrite, hanswer, children, List.flatMap_cons, List.flatMap_cons, List.flatMap_singleton]
    exact hself.bind (hparts.1.bind (hparts.2.1.bind (hparts.2.2.map (conditional (test.rewrite f) (yes.rewrite f)))))
  | coalesce left right =>
    rw [children, List.forall_mem_cons, List.forall_mem_singleton] at hparts
    rw [rewriteM, rewrite, hanswer, children, List.flatMap_cons, List.flatMap_singleton]
    exact hself.bind (hparts.1.bind (hparts.2.map (coalesce (left.rewrite f))))
  | call g receiver args =>
    rw [children, forall_mem_parts] at hparts
    obtain ⟨hreceiver, hargs⟩ := hparts
    rw [rewrite_call hanswer, children, parts]
    cases receiver with
    | none =>
      rw [rewriteM, rewriteArgsM_eq]
      exact hself.bind ((Traces.mapM hargs).map (call g none))
    | some r =>
      rw [rewriteM, rewriteArgsM_eq]
      exact hself.bind ((hreceiver r rfl).bind ((Traces.mapM hargs).map (call g (some (r.rewrite f)))))
  | record members =>
    rw [children, List.forall_mem_map] at hparts
    rw [rewriteM, rewriteMembersM_eq, rewrite_record hanswer, children, List.flatMap_map]
    exact hself.bind ((Traces.mapM fun m hm => (hparts m hm).map fun value => (m.1, value)).map record)

/-- Rewriting with a trace gives what rewriting gives, and its trace is the list of nodes asked about. -/
theorem traces_rewriteM (f : Expr → Option Expr) (e : Expr) :
    Traces (e.rewriteM (traced f)) (e.rewrite f) (e.consulted f) := by
  induction e using induction_children with
  | step e ih =>
    cases hanswer : f e with
    | none => exact traces_of_none hanswer ih
    | some replacement =>
      rw [rewrite_of_some hanswer, consulted_of_some hanswer, ← List.append_nil [e]]
      unfold rewriteM
      refine (traces_traced f e).bind ?_
      rw [hanswer]
      exact Traces.ofPure replacement

/-! ## What stands where afterwards -/

/-- The expression `e'` is `e` with the topmost nodes for which `f` has an answer replaced by their answers. -/
structure IsRewriting (f : Expr → Option Expr) (e e' : Expr) : Prop where
  /-- Where a node below no answer has an answer, that answer stands as it is. -/
  replaced : ∀ p n replacement, e.at? p = some n → e.isBelow f p = false → f n = some replacement →
    e'.at? p = some replacement
  /-- Where a node below no answer has none, the same node stands, but for its parts. -/
  kept : ∀ p n, e.at? p = some n → e.isBelow f p = false → f n = none → ∃ n', e'.at? p = some n' ∧ n'.shell = n.shell

/-- The parts of a node without an answer are rewritten each by itself. -/
theorem IsRewriting.part {f : Expr → Option Expr} {e e' child child' : Expr} {i : Nat} (h : IsRewriting f e e')
    (hanswer : f e = none) (hchild : e.children[i]? = some child) (hchild' : e'.children[i]? = some child') :
    IsRewriting f child child' := by
  have hbelow := isBelow_cons_of_none hanswer hchild
  constructor
  · intro p n replacement hat hp hn
    rw [← at?_cons_of_child hchild']
    exact h.replaced (i :: p) n replacement ((at?_cons_of_child hchild p).trans hat) ((hbelow p).trans hp) hn
  · intro p n hat hp hn
    rw [← at?_cons_of_child hchild']
    exact h.kept (i :: p) n ((at?_cons_of_child hchild p).trans hat) ((hbelow p).trans hp) hn

/-- There is no other expression with the answers in place of the topmost nodes answered for. -/
theorem IsRewriting.eq {f : Expr → Option Expr} {e e' : Expr} (h : IsRewriting f e e') : e' = e.rewrite f := by
  induction e using induction_children generalizing e' with
  | step e ih =>
    cases hanswer : f e with
    | some replacement =>
      rw [rewrite_of_some hanswer]
      exact Option.some.inj (h.replaced [] e replacement rfl rfl hanswer)
    | none =>
      obtain ⟨n', hn', hshell⟩ := h.kept [] e rfl rfl hanswer
      cases hn'
      have hchildren : e'.children = e.children.map (rewrite f) := by
        refine List.ext_getElem ?_ fun i hi hi' => ?_
        · rw [List.length_map]
          exact length_children_of_shell hshell
        · rw [List.length_map] at hi'
          rw [List.getElem_map]
          exact ih _ (List.getElem_mem hi') (h.part hanswer (List.getElem?_eq_getElem hi') (List.getElem?_eq_getElem hi))
      exact eq_of_shell (hshell.trans (shell_rewrite hanswer).symm) (hchildren.trans (children_rewrite hanswer).symm)

/-- An answer for the whole is put in its place: nothing else stands outside the replaced nodes. -/
theorem isRewriting_of_some {f : Expr → Option Expr} {e replacement : Expr} (hanswer : f e = some replacement) :
    IsRewriting f e replacement := by
  have houter : ∀ p, e.isBelow f p = false → ∀ n, e.at? p = some n → p = [] ∧ n = e := by
    intro p hp n hat
    cases p with
    | nil => exact ⟨rfl, (Option.some.inj hat).symm⟩
    | cons i p =>
      obtain ⟨child, hchild, -⟩ := at?_cons_eq_some.mp hat
      rw [isBelow_cons hchild, hanswer] at hp
      cases hp
  constructor
  · intro p n r hat hp hn
    obtain ⟨rfl, rfl⟩ := houter p hp n hat
    exact hanswer.symm.trans hn
  · intro p n hat hp hn
    obtain ⟨rfl, rfl⟩ := houter p hp n hat
    rw [hanswer] at hn
    cases hn

/-- Without an answer for the whole, its parts are rewritten in their places. -/
theorem isRewriting_of_none {f : Expr → Option Expr} {e : Expr} (hanswer : f e = none)
    (hparts : ∀ child ∈ e.children, IsRewriting f child (child.rewrite f)) : IsRewriting f e (e.rewrite f) := by
  have hpart : ∀ (i : Nat) (child : Expr), e.children[i]? = some child →
      (e.rewrite f).children[i]? = some (child.rewrite f) := by
    intro i child hchild
    rw [children_rewrite hanswer, List.getElem?_map, hchild]
    rfl
  constructor
  · intro p n r hat hp hn
    cases p with
    | nil =>
      cases hat
      rw [hanswer] at hn
      cases hn
    | cons i p =>
      obtain ⟨child, hchild, hat⟩ := at?_cons_eq_some.mp hat
      rw [at?_cons_of_child (hpart i child hchild)]
      have hp' := (isBelow_cons_of_none hanswer hchild p).symm.trans hp
      exact (hparts child (List.mem_of_getElem? hchild)).replaced p n r hat hp' hn
  · intro p n hat hp hn
    cases p with
    | nil =>
      cases hat
      exact ⟨_, rfl, shell_rewrite hanswer⟩
    | cons i p =>
      obtain ⟨child, hchild, hat⟩ := at?_cons_eq_some.mp hat
      rw [at?_cons_of_child (hpart i child hchild)]
      have hp' := (isBelow_cons_of_none hanswer hchild p).symm.trans hp
      exact (hparts child (List.mem_of_getElem? hchild)).kept p n hat hp' hn

/-- Rewriting puts the answers in place of the topmost nodes answered for, and changes nothing else. -/
theorem isRewriting_rewrite (f : Expr → Option Expr) (e : Expr) : IsRewriting f e (e.rewrite f) := by
  induction e using induction_children with
  | step e ih =>
    cases hanswer : f e with
    | some replacement =>
      rw [rewrite_of_some hanswer]
      exact isRewriting_of_some hanswer
    | none => exact isRewriting_of_none hanswer ih

/-- Without any answer an expression stays what it is. -/
theorem rewrite_of_forall_none {f : Expr → Option Expr} {e : Expr} (h : ∀ n ∈ e.nodes, f n = none) : e.rewrite f = e := by
  refine (IsRewriting.eq ⟨fun p n r hat _ hn => ?_, fun p n hat _ _ => ⟨n, hat, rfl⟩⟩).symm
  have hnode : n ∈ e.nodes := nodes_of_places e ▸ List.mem_map_of_mem (mem_places.mpr hat)
  rw [h n hnode] at hn
  cases hn

/-- The parameters of an expression are the one it refers to by itself and those of its parts. -/
theorem mem_params_iff_children {e : Expr} {q : Param} :
    q ∈ e.params ↔ e.param? = some q ∨ ∃ child ∈ e.children, q ∈ child.params := by
  simp only [mem_params]
  rw [nodes_eq]
  constructor
  · rintro ⟨n, hn, hq⟩
    rcases List.mem_cons.mp hn with rfl | hn
    · exact Or.inl hq
    · obtain ⟨child, hchild, hn⟩ := List.mem_flatMap.mp hn
      exact Or.inr ⟨child, hchild, n, hn, hq⟩
  · rintro (hq | ⟨child, hchild, n, hn, hq⟩)
    · exact ⟨e, List.mem_cons_self, hq⟩
    · exact ⟨n, List.mem_cons_of_mem _ (List.mem_flatMap.mpr ⟨child, hchild, hn⟩), hq⟩

/-- A parameter of the result is one of a node that was asked about without an answer, or one of an answer. -/
theorem mem_params_rewrite {f : Expr → Option Expr} {e : Expr} {q : Param} :
    q ∈ (e.rewrite f).params ↔
      ∃ n ∈ e.consulted f,
        f n = none ∧ n.param? = some q ∨ ∃ replacement, f n = some replacement ∧ q ∈ replacement.params := by
  induction e using induction_children with
  | step e ih =>
    cases hanswer : f e with
    | some replacement =>
      rw [rewrite_of_some hanswer, consulted_of_some hanswer]
      simp only [List.mem_singleton, exists_eq_left, hanswer, reduceCtorEq, false_and, Option.some.injEq, false_or,
        exists_eq_left']
    | none =>
      have hself : (e.rewrite f).param? = e.param? := by
        rw [← param?_shell, shell_rewrite hanswer, param?_shell]
      have hparts : (∃ child ∈ e.children.map (rewrite f), q ∈ child.params) ↔
          ∃ n ∈ e.children.flatMap (consulted f),
            f n = none ∧ n.param? = some q ∨ ∃ replacement, f n = some replacement ∧ q ∈ replacement.params := by
        constructor
        · rintro ⟨_, hmem, hq⟩
          obtain ⟨child, hchild, rfl⟩ := List.mem_map.mp hmem
          obtain ⟨n, hn, h⟩ := (ih child hchild).mp hq
          exact ⟨n, List.mem_flatMap.mpr ⟨child, hchild, hn⟩, h⟩
        · rintro ⟨n, hmem, h⟩
          obtain ⟨child, hchild, hn⟩ := List.mem_flatMap.mp hmem
          exact ⟨child.rewrite f, List.mem_map_of_mem hchild, (ih child hchild).mpr ⟨n, hn, h⟩⟩
      rw [mem_params_iff_children, hself, children_rewrite hanswer, hparts, consulted_of_none hanswer]
      simp only [List.mem_cons, exists_eq_or_imp, hanswer, true_and, reduceCtorEq, false_and, exists_const, or_false]

/-- Rewriting and the walk agree. Rewriting asks about the nodes that the walk meets and that lie below no answer, in the order of
the walk; its result is the one expression with the answers in place of the topmost nodes answered for; without an answer
nothing changes; and the parameters of the result are those of the nodes left standing and of the answers. -/
theorem rewrite_agrees_with_walk (f : Expr → Option Expr) (e : Expr) :
    ((e.rewriteM (traced f)).run [] = (e.rewrite f, e.consulted f)) ∧
    (e.consulted f = (e.places.filter fun place => !e.isBelow f place.1).map Prod.snd) ∧
    (e.places.map Prod.snd = e.nodes ∧ (e.places.map Prod.fst).Pairwise (· < ·) ∧
      ∀ p n, (p, n) ∈ e.places ↔ e.at? p = some n) ∧
    (∀ e', IsRewriting f e e' ↔ e' = e.rewrite f) ∧
    ((∀ n ∈ e.nodes, f n = none) → e.rewrite f = e) ∧
    ∀ q, q ∈ (e.rewrite f).params ↔
      ∃ n ∈ e.consulted f,
        f n = none ∧ n.param? = some q ∨ ∃ replacement, f n = some replacement ∧ q ∈ replacement.params := by
  refine ⟨traces_rewriteM f e [], consulted_eq f e, ⟨nodes_of_places e, places_sorted e, fun p n => mem_places⟩, ?_,
    rewrite_of_forall_none, fun q => mem_params_rewrite⟩
  intro e'
  constructor
  · exact IsRewriting.eq
  · rintro rfl
    exact isRewriting_rewrite f e

/-- A count next to a column, where each aggregate is answered by the output row: the column stays, and the answer stands for the
count with all that is in it. -/
theorem rewrite_agrees_with_walk_count :
    let answer : Expr → Option Expr := fun n => if n.isAggregateCall then some (.row ⟨"g", none⟩) else none
    let quantity : Expr := .column ⟨"o", some "Order"⟩ "Quantity"
    let count : Expr := .call ⟨.aggregate, "Count"⟩ none [quantity]
    (∀ n ∈ quantity.nodes, answer n = none) ∧ quantity.rewrite answer = quantity ∧
    (binary .add count quantity).consulted answer = [binary .add count quantity, count, quantity] ∧
    IsRewriting answer (.binary .add count quantity) (.binary .add (.row ⟨"g", none⟩) quantity) := by
  intro answer quantity count
  have hnone : ∀ n ∈ quantity.nodes, answer n = none := by
    intro n hn
    cases List.mem_singleton.mp hn
    rfl
  obtain ⟨-, -, -, -, hunchanged, -⟩ := rewrite_agrees_with_walk answer quantity
  obtain ⟨-, -, -, hunique, -, -⟩ := rewrite_agrees_with_walk answer (binary .add count quantity)
  exact ⟨hnone, hunchanged hnone, rfl, (hunique _).mpr rfl⟩

end Expr

end FlinkSql
