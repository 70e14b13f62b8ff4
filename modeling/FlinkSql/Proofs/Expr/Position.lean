import FlinkSql.Proofs.Expr.Induction
import Mathlib.Data.List.Basic

/-!
# Positions in expressions

A node of an expression stands at a position, the indices of the parts on the way down to it. Two nodes that are equal as
expressions are told apart by their positions. `Expr.places` labels the nodes with their positions, in the order of the walk,
which is the lexicographic order of positions. A node is known from its shell and its parts.
-/

namespace FlinkSql

namespace Expr

/-! ## Nodes at positions -/

/-- The node at a position, if the expression reaches that far. -/
def at? (e : Expr) : List Nat → Option Expr
  | [] => some e
  | i :: p => e.children[i]?.bind fun child => child.at? p

theorem at?_nil (e : Expr) : e.at? [] = some e := rfl

theorem at?_cons (e : Expr) (i : Nat) (p : List Nat) :
    e.at? (i :: p) = e.children[i]?.bind fun child => child.at? p := rfl

/-- A position in a part is a position in the whole. -/
theorem at?_cons_of_child {e child : Expr} {i : Nat} (h : e.children[i]? = some child) (p : List Nat) :
    e.at? (i :: p) = child.at? p := by
  rw [at?_cons, h]
  rfl

/-- A position other than the outermost lies in a part. -/
theorem at?_cons_eq_some {e n : Expr} {i : Nat} {p : List Nat} :
    e.at? (i :: p) = some n ↔ ∃ child, e.children[i]? = some child ∧ child.at? p = some n := by
  rw [at?_cons, Option.bind_eq_some_iff]

/-- A part is smaller than the whole. -/
theorem sizeOf_child_lt {e child : Expr} (h : child ∈ e.children) : sizeOf child < sizeOf e := by
  cases e with
  | literal v => exact absurd h List.not_mem_nil
  | column p name => exact absurd h List.not_mem_nil
  | row p => exact absurd h List.not_mem_nil
  | member target name =>
    rw [children, List.mem_singleton] at h
    subst h
    simp only [member.sizeOf_spec]
    omega
  | unary op operand =>
    rw [children, List.mem_singleton] at h
    subst h
    simp only [unary.sizeOf_spec]
    omega
  | binary op left right =>
    simp only [children, List.mem_cons, List.not_mem_nil, or_false] at h
    rcases h with rfl | rfl <;> simp only [binary.sizeOf_spec] <;> omega
  | conditional test yes no =>
    simp only [children, List.mem_cons, List.not_mem_nil, or_false] at h
    rcases h with rfl | rfl | rfl <;> simp only [conditional.sizeOf_spec] <;> omega
  | coalesce left right =>
    simp only [children, List.mem_cons, List.not_mem_nil, or_false] at h
    rcases h with rfl | rfl <;> simp only [coalesce.sizeOf_spec] <;> omega
  | call f receiver args =>
    rw [children, parts, List.mem_append, Option.mem_toList] at h
    simp only [call.sizeOf_spec]
    rcases h with h | h
    · cases h
      simp only [Option.some.sizeOf_spec]
      omega
    · have hlt := List.sizeOf_lt_of_mem h
      omega
  | record members =>
    obtain ⟨m, hm, rfl⟩ := List.mem_map.mp h
    have hlt := List.sizeOf_lt_of_mem hm
    have hvalue : sizeOf m.2 < sizeOf m := by
      cases m
      simp only [Prod.mk.sizeOf_spec]
      omega
    simp only [record.sizeOf_spec]
    omega

/-- The nodes with their positions, outer before inner and parts from left to right. -/
def places (e : Expr) : List (List Nat × Expr) :=
  ([], e) :: e.children.attach.zipIdx.flatMap fun part => (places part.1.1).map fun q => (part.2 :: q.1, q.2)
termination_by sizeOf e
decreasing_by exact sizeOf_child_lt part.1.2

/-- The places of an expression are its own and those of its parts, below their indices. -/
theorem places_eq (e : Expr) :
    e.places = ([], e) :: e.children.zipIdx.flatMap fun part => part.1.places.map fun q => (part.2 :: q.1, q.2) := by
  have hattach : e.children.zipIdx = e.children.attach.zipIdx.map fun part => (part.1.1, part.2) := by
    calc e.children.zipIdx
      _ = (e.children.attach.map Subtype.val).zipIdx := by rw [List.attach_map_subtype_val]
      _ = e.children.attach.zipIdx.map fun part => (part.1.1, part.2) := List.zipIdx_map ..
  rw [places, hattach, List.flatMap_map]

/-- Labelled with their positions are exactly the nodes that the walk meets, in its order. -/
theorem nodes_of_places (e : Expr) : e.places.map Prod.snd = e.nodes := by
  induction e using induction_children with
  | step e ih =>
    have hparts : (e.children.zipIdx.flatMap fun part => part.1.nodes) = e.children.flatMap nodes := by
      calc (e.children.zipIdx.flatMap fun part => part.1.nodes)
          _ = (e.children.zipIdx.map Prod.fst).flatMap nodes := (List.flatMap_map ..).symm
          _ = e.children.flatMap nodes := by rw [List.zipIdx_map_fst]
    rw [places_eq, nodes_eq, List.map_cons, List.map_flatMap, ← hparts]
    refine congrArg (e :: ·) (List.flatMap_congr fun part hpart => ?_)
    rw [List.map_map]
    exact ih part.1 (List.mem_of_getElem? (List.mem_zipIdx_iff_getElem?.mp hpart))

/-- A node is labelled with a position if it is what stands there. -/
theorem mem_places {e n : Expr} {p : List Nat} : (p, n) ∈ e.places ↔ e.at? p = some n := by
  induction e using induction_children generalizing p with
  | step e ih =>
    rw [places_eq, List.mem_cons, List.mem_flatMap]
    cases p with
    | nil =>
      simp [at?_nil, eq_comm]
    | cons i p =>
      rw [at?_cons_eq_some]
      constructor
      · rintro (h | ⟨⟨child, j⟩, hpart, h⟩)
        · cases h
        · obtain ⟨⟨q, m⟩, hq, heq⟩ := List.mem_map.mp h
          cases heq
          have hchild : e.children[j]? = some child := List.mk_mem_zipIdx_iff_getElem?.mp hpart
          exact ⟨child, hchild, (ih child (List.mem_of_getElem? hchild)).mp hq⟩
      · rintro ⟨child, hchild, h⟩
        have hplace := (ih child (List.mem_of_getElem? hchild)).mpr h
        exact Or.inr ⟨(child, i), List.mk_mem_zipIdx_iff_getElem?.mpr hchild, List.mem_map.mpr ⟨(p, n), hplace, rfl⟩⟩

/-- The walk meets the positions in lexicographic order, each once. -/
theorem places_sorted (e : Expr) : (e.places.map Prod.fst).Pairwise (· < ·) := by
  induction e using induction_children with
  | step e ih =>
    rw [places_eq, List.map_cons, List.map_flatMap, List.pairwise_cons, List.pairwise_flatMap]
    refine ⟨?_, ?_, ?_⟩
    · intro p hp
      obtain ⟨part, -, hp⟩ := List.mem_flatMap.mp hp
      rw [List.map_map] at hp
      obtain ⟨q, -, rfl⟩ := List.mem_map.mp hp
      exact List.Lex.nil
    · intro part hpart
      have hchild := ih part.1 (List.mem_of_getElem? (List.mem_zipIdx_iff_getElem?.mp hpart))
      rw [List.map_map]
      change (part.1.places.map fun q => part.2 :: q.1).Pairwise (· < ·)
      rw [List.pairwise_map] at hchild ⊢
      exact hchild.imp fun h => List.cons_lt_cons_iff.mpr (Or.inr ⟨rfl, h⟩)
    · -- a part comes before another if its index is smaller
      have hindices : e.children.zipIdx.Pairwise fun part part' => part.2 < part'.2 := by
        rw [← List.pairwise_map (f := Prod.snd), List.zipIdx_map_snd]
        exact List.pairwise_lt_range'
      refine hindices.imp fun {part part'} hlt p hp q hq => ?_
      rw [List.map_map] at hp hq
      obtain ⟨_, -, rfl⟩ := List.mem_map.mp hp
      obtain ⟨_, -, rfl⟩ := List.mem_map.mp hq
      exact List.cons_lt_cons_iff.mpr (Or.inl hlt)

/-! ## Shells -/

/-- A node apart from its parts: for each part stands the null literal. -/
def shell : Expr → Expr
  | .literal v => .literal v
  | .column p name => .column p name
  | .row p => .row p
  | .member _ name => .member (.literal .null) name
  | .unary op _ => .unary op (.literal .null)
  | .binary op _ _ => .binary op (.literal .null) (.literal .null)
  | .conditional _ _ _ => .conditional (.literal .null) (.literal .null) (.literal .null)
  | .coalesce _ _ => .coalesce (.literal .null) (.literal .null)
  | .call f receiver args => .call f (receiver.map fun _ => .literal .null) (args.map fun _ => .literal .null)
  | .record members => .record (members.map fun m => (m.1, .literal .null))

/-- Nodes with one shell have equally many parts. -/
theorem length_children_of_shell {e e' : Expr} (h : e.shell = e'.shell) : e.children.length = e'.children.length := by
  have hshell : ∀ e : Expr, e.shell.children.length = e.children.length := by
    intro e
    cases e with
    | call f receiver args =>
      cases receiver <;> simp [shell, children, parts]
    | record members => simp [shell, children]
    | _ => rfl
  rw [← hshell e, h, hshell e']

/-- A node is known from its shell and its parts. -/
theorem eq_of_shell {e e' : Expr} (hshell : e.shell = e'.shell) (hchildren : e.children = e'.children) : e = e' := by
  cases e with
  | call f receiver args =>
    cases e' with
    | call f' receiver' args' =>
      simp only [shell, call.injEq] at hshell
      obtain ⟨rfl, hreceiver, -⟩ := hshell
      cases receiver with
      | none =>
        cases receiver' with
        | none => exact congrArg (call f none) hchildren
        | some r' => cases hreceiver
      | some r =>
        cases receiver' with
        | none => cases hreceiver
        | some r' =>
          obtain ⟨rfl, rfl⟩ := List.cons.inj hchildren
          rfl
    | _ => cases hshell
  | record members =>
    cases e' with
    | record members' =>
      have hnames : members.map Prod.fst = members'.map Prod.fst := by
        have hmap := congrArg (List.map Prod.fst) (record.inj hshell)
        rwa [List.map_map, List.map_map] at hmap
      exact congrArg record ((List.zip_of_prod hnames hchildren).trans (List.zip_of_prod rfl rfl).symm)
    | _ => cases hshell
  | _ => cases e' <;> simp_all [shell, children]

/-- Rewriting keeps the shell of a node for which there is no answer. -/
theorem shell_rewrite {f : Expr → Option Expr} {e : Expr} (h : f e = none) : (e.rewrite f).shell = e.shell := by
  cases e with
  | call g receiver args =>
    rw [rewrite_call h, shell, shell, Option.map_map, List.map_map]
    rfl
  | record members =>
    rw [rewrite_record h, shell, shell, List.map_map]
    rfl
  | literal v | column p name | row p => rw [rewrite, h]
  | _ => rw [rewrite, h]; rfl

/-- Whether a node refers to a parameter by itself shows on its shell. -/
theorem param?_shell (e : Expr) : e.shell.param? = e.param? := by
  cases e <;> rfl

end Expr

end FlinkSql
