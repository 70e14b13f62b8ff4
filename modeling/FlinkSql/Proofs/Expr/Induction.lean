import FlinkSql.Expr.Rewrite
import FlinkSql.Expr.Sql
import FlinkSql.Expr.Walk

/-!
# Induction on expressions

One induction for all functions on expressions: a statement holds of an expression if it holds of each form whenever it holds of
the parts. A call and a record have a list of parts, so what the functions do with lists of arguments and members is stated
here in terms of the lists.
-/

namespace FlinkSql

namespace Expr

/-- Induction over the forms of expressions, with every part of a call and of a record at once. -/
@[elab_as_elim]
theorem induction {motive : Expr → Prop}
    (literal : ∀ v, motive (.literal v))
    (column : ∀ p name, motive (.column p name))
    (row : ∀ p, motive (.row p))
    (member : ∀ target name, motive target → motive (.member target name))
    (unary : ∀ op operand, motive operand → motive (.unary op operand))
    (binary : ∀ op left right, motive left → motive right → motive (.binary op left right))
    (conditional : ∀ test yes no, motive test → motive yes → motive no → motive (.conditional test yes no))
    (coalesce : ∀ left right, motive left → motive right → motive (.coalesce left right))
    (call : ∀ f receiver args, (∀ r ∈ receiver, motive r) → (∀ e ∈ args, motive e) → motive (.call f receiver args))
    (record : ∀ members, (∀ m ∈ members, motive m.2) → motive (.record members)) (e : Expr) : motive e :=
  Expr.rec (motive_1 := motive) (motive_2 := fun receiver => ∀ r ∈ receiver, motive r)
    (motive_3 := fun args => ∀ e ∈ args, motive e) (motive_4 := fun members => ∀ m ∈ members, motive m.2)
    (motive_5 := fun m => motive m.2) literal column row member unary binary conditional coalesce call record
    (fun _ h => nomatch h) (fun _ h _ hr => Option.some.inj hr ▸ h) (fun _ h => absurd h List.not_mem_nil)
    (fun _ _ h hrest => List.forall_mem_cons.mpr ⟨h, hrest⟩) (fun _ h => absurd h List.not_mem_nil)
    (fun _ _ h hrest => List.forall_mem_cons.mpr ⟨h, hrest⟩) (fun _ _ h => h) e

/-! ## Parts of calls and records -/

/-- The receiver of a call, if it has one, and its arguments. -/
def parts (receiver : Option Expr) (args : List Expr) : List Expr := receiver.toList ++ args

/-- What holds of the receiver and of the arguments holds of the parts. -/
theorem forall_mem_parts {P : Expr → Prop} {receiver : Option Expr} {args : List Expr} :
    (∀ e ∈ parts receiver args, P e) ↔ (∀ r ∈ receiver, P r) ∧ ∀ e ∈ args, P e := by
  simp only [parts, List.forall_mem_append, Option.mem_toList, Option.mem_def]

/-- What stands at a position of a call is the part at that position. -/
theorem raw_eq (a : Arguments) (index : Nat) : a.raw index = (parts a.call.receiver a.call.args)[index]? := by
  obtain ⟨⟨f, receiver, args⟩, rendered⟩ := a
  cases receiver with
  | none => rfl
  | some receiver => cases index <;> rfl

/-- The nodes of arguments are those of each. -/
theorem argNodes_eq (args : List Expr) : argNodes args = args.flatMap nodes := by
  induction args with
  | nil => rfl
  | cons e rest ih => rw [argNodes, List.flatMap_cons, ih]

theorem memberNodes_eq (members : List (String × Expr)) : memberNodes members = members.flatMap (·.2.nodes) := by
  induction members with
  | nil => rfl
  | cons m rest ih => rw [memberNodes, List.flatMap_cons, ih]

/-- The nodes of a call are the call and the nodes of its parts. -/
theorem nodes_call (f : FunctionName) (receiver : Option Expr) (args : List Expr) :
    (call f receiver args).nodes = .call f receiver args :: (parts receiver args).flatMap nodes := by
  cases receiver with
  | none => rw [nodes, argNodes_eq]; rfl
  | some r => rw [nodes, argNodes_eq]; rfl

/-- The nodes of a record are the record and the nodes of its values. -/
theorem nodes_record (members : List (String × Expr)) :
    (record members).nodes = .record members :: members.flatMap (·.2.nodes) := by
  rw [nodes, memberNodes_eq]

/-- Arguments are rewritten one by one. -/
theorem rewriteArgs_eq (f : Expr → Option Expr) (args : List Expr) : rewriteArgs f args = args.map (rewrite f) := by
  induction args with
  | nil => rfl
  | cons e rest ih => rw [rewriteArgs, List.map_cons, ih]

theorem rewriteMembers_eq (f : Expr → Option Expr) (members : List (String × Expr)) :
    rewriteMembers f members = members.map fun m => (m.1, m.2.rewrite f) := by
  induction members with
  | nil => rfl
  | cons m rest ih => rw [rewriteMembers, List.map_cons, ih]

/-- An answer for the whole expression replaces it. -/
theorem rewrite_of_some {f : Expr → Option Expr} {e replacement : Expr} (h : f e = some replacement) :
    e.rewrite f = replacement := by
  unfold rewrite
  rw [h]

/-- A call without an answer is rewritten in its receiver and its arguments. -/
theorem rewrite_call {g : Expr → Option Expr} {f : FunctionName} {receiver : Option Expr} {args : List Expr}
    (h : g (.call f receiver args) = none) :
    (call f receiver args).rewrite g = .call f (receiver.map (rewrite g)) (args.map (rewrite g)) := by
  cases receiver with
  | none => rw [rewrite, h, rewriteArgs_eq]; rfl
  | some r => rw [rewrite, h, rewriteArgs_eq]; rfl

/-- A record without an answer is rewritten in its values. -/
theorem rewrite_record {g : Expr → Option Expr} {members : List (String × Expr)} (h : g (.record members) = none) :
    (record members).rewrite g = .record (members.map fun m => (m.1, m.2.rewrite g)) := by
  rw [rewrite, h, rewriteMembers_eq]

/-- Arguments are written in order. -/
theorem argsSql_eq (functions : Registry) (aliases : Aliases) (args : List Expr) :
    argsSql functions aliases args = args.mapM (sql functions aliases) := by
  induction args with
  | nil => rfl
  | cons e rest ih => rw [argsSql, List.mapM_cons, ih]

/-- A call is written by its rule, from the SQL of its parts. -/
theorem sql_call (functions : Registry) (aliases : Aliases) (f : FunctionName) (receiver : Option Expr)
    (args : List Expr) :
    (call f receiver args).sql functions aliases =
      (parts receiver args).mapM (sql functions aliases) >>= fun rendered => functions.write ⟨⟨f, receiver, args⟩, rendered⟩ := by
  cases receiver with
  | none => rw [sql, argsSql_eq]; rfl
  | some r =>
    have hparts : parts (some r) args = r :: args := rfl
    rw [sql, argsSql_eq, hparts, List.mapM_cons]
    simp only [bind_assoc, pure_bind]

/-! ## Nodes -/

/-- The parts of an expression, in order. -/
def children : Expr → List Expr
  | .literal _ => []
  | .column _ _ => []
  | .row _ => []
  | .member target _ => [target]
  | .unary _ operand => [operand]
  | .binary _ left right => [left, right]
  | .conditional test yes no => [test, yes, no]
  | .coalesce left right => [left, right]
  | .call _ receiver args => parts receiver args
  | .record members => members.map (·.2)

/-- The nodes of an expression are itself and the nodes of its parts. -/
theorem nodes_eq (e : Expr) : e.nodes = e :: e.children.flatMap nodes := by
  cases e with
  | literal v => rw [nodes]; rfl
  | column p name => rw [nodes]; rfl
  | row p => rw [nodes]; rfl
  | member target name => rw [nodes, children, List.flatMap_singleton]
  | unary op operand => rw [nodes, children, List.flatMap_singleton]
  | binary op left right => rw [nodes, children, List.flatMap_cons, List.flatMap_singleton]
  | conditional test yes no =>
    rw [nodes, children, List.flatMap_cons, List.flatMap_cons, List.flatMap_singleton, List.append_assoc]
  | coalesce left right => rw [nodes, children, List.flatMap_cons, List.flatMap_singleton]
  | call f receiver args => exact nodes_call f receiver args
  | record members => rw [nodes_record, children, List.flatMap_map]

theorem mem_nodes_self (e : Expr) : e ∈ e.nodes := by
  rw [nodes_eq]
  exact List.mem_cons_self

/-- A node of a part is a node of the whole. -/
theorem mem_nodes_of_child {e child n : Expr} (h : child ∈ e.children) (hn : n ∈ child.nodes) : n ∈ e.nodes := by
  rw [nodes_eq]
  exact List.mem_cons_of_mem _ (List.mem_flatMap.mpr ⟨child, h, hn⟩)

/-- Induction over parts: a statement holds of an expression if it holds whenever it does of all parts. -/
@[elab_as_elim]
theorem induction_children {motive : Expr → Prop} (step : ∀ e, (∀ child ∈ e.children, motive child) → motive e) (e : Expr) :
    motive e := by
  induction e using Expr.induction with
  | literal v => exact step _ fun _ h => absurd h List.not_mem_nil
  | column p name => exact step _ fun _ h => absurd h List.not_mem_nil
  | row p => exact step _ fun _ h => absurd h List.not_mem_nil
  | member target name ih => exact step _ (List.forall_mem_singleton.mpr ih)
  | unary op operand ih => exact step _ (List.forall_mem_singleton.mpr ih)
  | binary op left right ihl ihr => exact step _ (List.forall_mem_cons.mpr ⟨ihl, List.forall_mem_singleton.mpr ihr⟩)
  | conditional test yes no iht ihy ihn =>
    exact step _ (List.forall_mem_cons.mpr ⟨iht, List.forall_mem_cons.mpr ⟨ihy, List.forall_mem_singleton.mpr ihn⟩⟩)
  | coalesce left right ihl ihr => exact step _ (List.forall_mem_cons.mpr ⟨ihl, List.forall_mem_singleton.mpr ihr⟩)
  | call f receiver args ihr iha => exact step _ (forall_mem_parts.mpr ⟨ihr, iha⟩)
  | record members ih => exact step _ (List.forall_mem_map.mpr ih)

/-- Rewriting an expression for which there is no answer rewrites its parts. -/
theorem children_rewrite {f : Expr → Option Expr} {e : Expr} (h : f e = none) :
    (e.rewrite f).children = e.children.map (rewrite f) := by
  cases e with
  | literal v => rw [rewrite, h]; rfl
  | column p name => rw [rewrite, h]; rfl
  | row p => rw [rewrite, h]; rfl
  | member target name => rw [rewrite, h]; rfl
  | unary op operand => rw [rewrite, h]; rfl
  | binary op left right => rw [rewrite, h]; rfl
  | conditional test yes no => rw [rewrite, h]; rfl
  | coalesce left right => rw [rewrite, h]; rfl
  | call g receiver args =>
    rw [rewrite_call h, children, children, parts, parts, List.map_append]
    cases receiver <;> rfl
  | record members => rw [rewrite_record h, children, children, List.map_map, List.map_map]; rfl

end Expr

end FlinkSql
