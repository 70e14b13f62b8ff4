import FlinkSql.Proofs.Expr.Induction
import FlinkSql.Proofs.Json.Reread
import FlinkSql.Proofs.Time.Reading

/-!
# Snapshots of expressions are read back

An expression is read node by node: the name of the variant and the fields tell the node, and the parts are read in the same way.
So an expression is read back where its parts and its own literal are, and the only literals that are not are doubles that are
not finite.
-/

namespace FlinkSql

/-- A parameter is read back from its JSON. -/
theorem Param.decode_reread (p : Param) : Param.decode p.encode.reread = some p := by
  obtain ⟨name, row⟩ := p
  cases row <;> rfl

/-! ## Literals -/

namespace Literal

/-- The double in a literal is finite, if the literal is one. -/
def IsFinite : Literal → Prop
  | .float x => Number.isFinite x = true
  | _ => True

/-- A signed word is read back from the whole number it is written as. -/
theorem integer?_int (n : Int64) : integer? (.int n.toInt) = some n := by
  have hrange : Int64.minValue.toInt ≤ n.toInt ∧ n.toInt ≤ Int64.maxValue.toInt :=
    ⟨Int64.minValue_le_toInt n, Int64.toInt_le n⟩
  rw [integer?, Json.intIn?, if_pos hrange, Option.map_some, Int64.ofInt_toInt]

/-- A literal is read back exactly if it is no double that is not finite. -/
theorem decode_reread_iff (v : Literal) : decode v.encode.reread = some v ↔ v.IsFinite := by
  cases v with
  | null => exact ⟨fun _ => trivial, fun _ => rfl⟩
  | boolean b => exact ⟨fun _ => trivial, fun _ => rfl⟩
  | integer n =>
    have hdecode : Literal.decode (integer n).encode.reread = (integer? (.int n.toInt)).map Literal.integer := rfl
    rw [hdecode, integer?_int]
    exact ⟨fun _ => trivial, fun _ => rfl⟩
  | float x =>
    have hreread : (Literal.float x).encode.reread = .ofVariant "Float" (if Number.isFinite x then .float x else .null) := rfl
    rw [hreread, IsFinite]
    by_cases hfinite : Number.isFinite x = true
    · rw [if_pos hfinite]
      exact ⟨fun _ => hfinite, fun _ => rfl⟩
    · rw [if_neg hfinite]
      exact ⟨nofun, fun h => absurd h hfinite⟩
  | decimal d => exact ⟨fun _ => trivial, fun _ => rfl⟩
  | string s => exact ⟨fun _ => trivial, fun _ => rfl⟩
  | timestamp t =>
    -- stated of any text, so that the written form of the timestamp is not evaluated
    have hdecode : ∀ s, Literal.decode (.ofVariant "Timestamp" (.str s)) = (Timestamp.read? s).map Literal.timestamp := fun _ => rfl
    have hreread : (timestamp t).encode.reread = .ofVariant "Timestamp" (.str t.iso) := rfl
    rw [hreread, hdecode, Timestamp.read?_iso]
    exact ⟨fun _ => trivial, fun _ => rfl⟩

end Literal

/-! ## Nodes -/

namespace Expr

open Json

/-- The expression of a node, its parts read. -/
def Head.finish : Head → Option Expr
  | .literal value => some (.literal value)
  | .column param name => some (.column param name)
  | .row param => some (.row param)
  | .member target name => do return .member (← Expr.decode target) name
  | .unary op operand => do return .unary op (← Expr.decode operand)
  | .binary op left right => do return .binary op (← Expr.decode left) (← Expr.decode right)
  | .conditional test yes no => do return .conditional (← Expr.decode test) (← Expr.decode yes) (← Expr.decode no)
  | .coalesce left right => do return .coalesce (← Expr.decode left) (← Expr.decode right)
  | .call f none args => do return .call f none (← decodeArgs args)
  | .call f (some receiver) args => do return .call f (some (← Expr.decode receiver)) (← decodeArgs args)
  | .record members => do return .record (← decodeMembers members)

/-- An expression is read from its outermost node. -/
theorem decode_eq (j : Json) : Expr.decode j = (Head.decode j).bind Head.finish := by
  rw [Expr.decode]
  split <;> rename_i hhead <;> rw [hhead] <;> rfl

/-- Arguments are read one by one. -/
theorem decodeArgs_eq (args : List Json) : decodeArgs args = args.mapM Expr.decode := by
  induction args with
  | nil => rw [decodeArgs]; rfl
  | cons j rest ih => rw [decodeArgs, List.mapM_cons, ih]

theorem encodeArgs_eq (args : List Expr) : encodeArgs args = args.map encode := by
  induction args with
  | nil => rfl
  | cons e rest ih => rw [encodeArgs, List.map_cons, ih]

/-- A member of a record that is read back. -/
theorem decodeMembers_cons (name : String) (value : Json) (rest : List Json) :
    decodeMembers (.obj [("name", .str name), ("value", value)] :: rest) =
      (Expr.decode value).bind fun e => (decodeMembers rest).bind fun es => some ((name, e) :: es) := by
  have hrecord : (Json.obj [("name", .str name), ("value", value)]).record? [required "name", required "value"] =
      some [.str name, value] := rfl
  rw [decodeMembers]
  split
  · rename_i hfields
    rw [hrecord] at hfields
    cases hfields
    rfl
  · rename_i hfields
    exact absurd hrecord (hfields _ _)

/-! ## Expressions -/

/-- Arguments are read back exactly if each of them is. -/
theorem decodeArgs_reread (args : List Expr) :
    decodeArgs (rereadItems (encodeArgs args)) = some args ↔ ∀ e ∈ args, Expr.decode e.encode.reread = some e := by
  rw [decodeArgs_eq, rereadItems_eq, encodeArgs_eq, List.map_map]
  exact mapM_reread args

/-- Members are read back exactly if the value of each is. -/
theorem decodeMembers_reread (members : List (String × Expr)) :
    decodeMembers (rereadItems (encodeMembers members)) = some members ↔ ∀ m ∈ members, Expr.decode m.2.encode.reread = some m.2 := by
  induction members with
  | nil =>
    rw [encodeMembers, rereadItems, decodeMembers]
    exact ⟨fun _ => List.forall_mem_nil _, fun _ => rfl⟩
  | cons m members ih =>
    obtain ⟨name, e⟩ := m
    have hmember : rereadItems (encodeMembers ((name, e) :: members)) =
        .obj [("name", .str name), ("value", e.encode.reread)] :: rereadItems (encodeMembers members) := rfl
    rw [hmember, decodeMembers_cons, List.forall_mem_cons, ← ih]
    cases Expr.decode e.encode.reread <;> cases decodeMembers (rereadItems (encodeMembers members)) <;> simp

/-- A receiver is never null. -/
theorem receiver_reread (e : Expr) : Head.receiver e.encode.reread = some e.encode.reread := by
  cases e with
  | call f receiver args => cases receiver <;> rfl
  | _ => rfl

/-- The head of a call is read back, with its receiver and its arguments as they are written. -/
theorem decode_head_call (f : FunctionName) (receiver : Option Expr) (args : List Expr) :
    Head.decode (call f receiver args).encode.reread =
      some (.call f (receiver.map fun r => r.encode.reread) (rereadItems (encodeArgs args))) := by
  obtain ⟨origin, name⟩ := f
  cases receiver with
  | none => cases origin <;> rfl
  | some r =>
    have hcall : Head.decode (call ⟨origin, name⟩ (some r) args).encode.reread =
        some (.call ⟨origin, name⟩ (Head.receiver r.encode.reread) (rereadItems (encodeArgs args))) := by
      cases origin <;> rfl
    rw [hcall, receiver_reread]
    rfl

/-- An expression is read back where its own literal and its parts are. -/
theorem decode_reread_iff_children (e : Expr) :
    Expr.decode e.encode.reread = some e ↔
      (∀ v, e = .literal v → v.IsFinite) ∧ ∀ child ∈ e.children, Expr.decode child.encode.reread = some child := by
  rw [decode_eq]
  cases e with
  | literal v =>
    have hhead : Head.decode (literal v).encode.reread = (Literal.decode v.encode.reread).map Head.literal := rfl
    have hv := Literal.decode_reread_iff v
    rw [hhead]
    cases hread : Literal.decode v.encode.reread with
    | none => simp [children, ← hv, hread]
    | some w => simp [Head.finish, children, ← hv, hread]
  | column p name =>
    have hhead : Head.decode (column p name).encode.reread = (Param.decode p.encode.reread).bind fun p => some (.column p name) := rfl
    rw [hhead, Param.decode_reread]
    simp [Head.finish, children]
  | row p =>
    have hhead : Head.decode (row p).encode.reread = (Param.decode p.encode.reread).map Head.row := rfl
    rw [hhead, Param.decode_reread]
    simp [Head.finish, children]
  | member target name =>
    have hhead : Head.decode (member target name).encode.reread = some (.member target.encode.reread name) := rfl
    rw [hhead]
    simp [Head.finish, children, Option.bind_eq_some_iff]
  | unary op operand =>
    have hhead : Head.decode (unary op operand).encode.reread = some (.unary op operand.encode.reread) := by
      cases op <;> rfl
    rw [hhead]
    simp [Head.finish, children, Option.bind_eq_some_iff]
  | binary op left right =>
    have hhead : Head.decode (binary op left right).encode.reread = some (.binary op left.encode.reread right.encode.reread) := by
      cases op <;> rfl
    rw [hhead]
    simp [Head.finish, children, Option.bind_eq_some_iff]
  | conditional test yes no =>
    have hhead : Head.decode (conditional test yes no).encode.reread =
        some (.conditional test.encode.reread yes.encode.reread no.encode.reread) := rfl
    rw [hhead]
    simp [Head.finish, children, Option.bind_eq_some_iff]
  | coalesce left right =>
    have hhead : Head.decode (coalesce left right).encode.reread = some (.coalesce left.encode.reread right.encode.reread) := rfl
    rw [hhead]
    simp [Head.finish, children, Option.bind_eq_some_iff]
  | call f receiver args =>
    rw [decode_head_call, children, forall_mem_parts, ← decodeArgs_reread]
    cases receiver <;> simp [Head.finish, Option.bind_eq_some_iff]
  | record members =>
    have hhead : Head.decode (record members).encode.reread = some (.record (rereadItems (encodeMembers members))) := rfl
    rw [hhead, children, List.forall_mem_map, ← decodeMembers_reread]
    simp [Head.finish, Option.bind_eq_some_iff]

/-- All doubles in the literals of an expression are finite. -/
def IsFinite (e : Expr) : Prop := ∀ v, .literal v ∈ e.nodes → v.IsFinite

/-- An expression is read back if all its doubles are finite, and only then. -/
theorem decode_reread_iff (e : Expr) : Expr.decode e.encode.reread = some e ↔ e.IsFinite := by
  induction e using induction_children with
  | step e ih =>
    rw [decode_reread_iff_children]
    have hchildren : (∀ child ∈ e.children, Expr.decode child.encode.reread = some child) ↔ ∀ child ∈ e.children, child.IsFinite :=
      forall₂_congr ih
    rw [hchildren, IsFinite, nodes_eq]
    simp only [IsFinite, List.mem_cons, List.mem_flatMap]
    constructor
    · rintro ⟨hself, hparts⟩ v (heq | ⟨child, hchild, hmem⟩)
      · exact hself v heq.symm
      · exact hparts child hchild v hmem
    · intro h
      exact ⟨fun v heq => h v (Or.inl heq.symm), fun child hchild v hmem => h v (Or.inr ⟨child, hchild, hmem⟩)⟩

/-- Null is no expression. -/
theorem decode_null : Expr.decode .null = none := by
  rw [decode_eq]
  rfl

end Expr

end FlinkSql
