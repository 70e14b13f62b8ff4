import FlinkSql.Expr.Basic
import FlinkSql.Json.Shape

/-!
# Snapshots of expressions

Expressions as JSON values and back. A variant is an object with the name of the variant and its fields; a literal keeps its
kind. Reading accepts what writing gives, fields in any order, and parameters, references, calls and members of records written as arrays.
-/

namespace FlinkSql

namespace Param

/-- A parameter as JSON. -/
def encode (p : Param) : Json :=
  .obj [("name", .str p.name), ("row", (p.row.map Json.str).getD .null)]

/-- Reads a parameter. -/
def decode (j : Json) : Option Param := do
  let [name, row] ← j.record? [Json.required "name", Json.optional "row"] | none
  return ⟨← name.str?, ← row.nullable? Json.str?⟩

end Param

namespace Literal

/-- A literal as JSON. -/
def encode : Literal → Json
  | .null => .str "Null"
  | .boolean b => .ofVariant "Boolean" (.bool b)
  | .integer n => .ofVariant "Integer" (.int n.toInt)
  | .float x => .ofVariant "Float" (.float x)
  | .decimal d => .ofVariant "Decimal" (.str d)
  | .string s => .ofVariant "String" (.str s)
  | .timestamp t => .ofVariant "Timestamp" (.str t.iso)

/-- Reads a whole number that fits a signed 64-bit word. -/
def integer? (j : Json) : Option Int64 := (j.intIn? Int64.minValue.toInt Int64.maxValue.toInt).map Int64.ofInt

/-- Reads a literal. -/
def decode (j : Json) : Option Literal :=
  if j.unitVariant? == some "Null" then some .null
  else do
    let (kind, payload) ← j.payload?
    match kind with
    | "Boolean" => payload.bool?.map .boolean
    | "Integer" => (integer? payload).map .integer
    | "Float" => payload.float?.map .float
    | "Decimal" => payload.str?.map .decimal
    | "String" => payload.str?.map .string
    | "Timestamp" => (payload.str?.bind Timestamp.read?).map .timestamp
    | _ => none

end Literal

mutual

/-- An expression as JSON. -/
def Expr.encode : Expr → Json
  | .literal v => .ofVariant "Literal" v.encode
  | .column p name => .ofVariant "Column" (.obj [("param", p.encode), ("name", .str name)])
  | .row p => .ofVariant "Param" p.encode
  | .member target name => .ofVariant "Member" (.obj [("target", target.encode), ("member", .str name)])
  | .unary op operand => .ofVariant "Unary" (.obj [("op", .ofNamed op), ("operand", operand.encode)])
  | .binary op left right =>
    .ofVariant "Binary" (.obj [("left", left.encode), ("op", .ofNamed op), ("right", right.encode)])
  | .conditional test yes no =>
    .ofVariant "Conditional" (.obj [("test", test.encode), ("then", yes.encode), ("otherwise", no.encode)])
  | .coalesce left right => .ofVariant "Coalesce" (.obj [("left", left.encode), ("right", right.encode)])
  | .call f none args =>
    .ofVariant "Call" (.obj
      [("origin", .ofNamed f.origin), ("name", .str f.name), ("receiver", .null), ("args", .arr (encodeArgs args))])
  | .call f (some receiver) args =>
    .ofVariant "Call" (.obj
      [("origin", .ofNamed f.origin), ("name", .str f.name), ("receiver", receiver.encode),
        ("args", .arr (encodeArgs args))])
  | .record members => .ofVariant "Record" (.arr (encodeMembers members))

/-- Arguments as JSON. -/
def encodeArgs : List Expr → List Json
  | [] => []
  | e :: rest => e.encode :: encodeArgs rest

/-- Record members as JSON. -/
def encodeMembers : List (String × Expr) → List Json
  | [] => []
  | (name, e) :: rest => .obj [("name", .str name), ("value", e.encode)] :: encodeMembers rest

end

namespace Expr

open Json

/-- The outermost node of an expression whose parts are still JSON values. -/
inductive Head
  | literal (value : Literal)
  | column (param : Param) (name : String)
  | row (param : Param)
  | member (target : Json) (name : String)
  | unary (op : UnaryOp) (operand : Json)
  | binary (op : BinaryOp) (left right : Json)
  | conditional (test yes no : Json)
  | coalesce (left right : Json)
  | call (f : FunctionName) (receiver : Option Json) (args : List Json)
  | record (members : List Json)

namespace Head

/-- Reads a reference to a column. -/
def column? (payload : Json) : Option Head := do
  let [param, name] ← payload.record? [required "param", required "name"] | none
  return .column (← Param.decode param) (← name.str?)

/-- Reads a member access. -/
def member? (payload : Json) : Option Head := do
  let [target, name] ← payload.object? [required "target", required "member"] | none
  return .member target (← name.str?)

/-- Reads an operator with one operand. -/
def unary? (payload : Json) : Option Head := do
  let [op, operand] ← payload.object? [required "op", required "operand"] | none
  return .unary (← op.named?) operand

/-- Reads an operator with two operands. -/
def binary? (payload : Json) : Option Head := do
  let [left, op, right] ← payload.object? [required "left", required "op", required "right"] | none
  return .binary (← op.named?) left right

/-- Reads a conditional. -/
def conditional? (payload : Json) : Option Head := do
  let [test, yes, no] ← payload.object? [required "test", required "then", required "otherwise"] | none
  return .conditional test yes no

/-- Reads a default for null. -/
def coalesce? (payload : Json) : Option Head := do
  let [left, right] ← payload.object? [required "left", required "right"] | none
  return .coalesce left right

/-- A receiver that may be null. -/
def receiver : Json → Option Json
  | .null => none
  | j => some j

/-- Reads a call. -/
def call? (payload : Json) : Option Head := do
  let [origin, name, target, .arr args] ←
    payload.record? [required "origin", required "name", optional "receiver", required "args"] | none
  return .call ⟨← origin.named?, ← name.str?⟩ (receiver target) args

/-- Reads a record. -/
def members? : Json → Option Head
  | .arr members => some (.record members)
  | _ => none

/-- Reads the node that a JSON value stands for. -/
def decode (j : Json) : Option Head := do
  let (kind, payload) ← j.payload?
  match kind with
  | "Literal" => (Literal.decode payload).map .literal
  | "Column" => column? payload
  | "Param" => (Param.decode payload).map .row
  | "Member" => member? payload
  | "Unary" => unary? payload
  | "Binary" => binary? payload
  | "Conditional" => conditional? payload
  | "Coalesce" => coalesce? payload
  | "Call" => call? payload
  | "Record" => members? payload
  | _ => none

/-- Whether the parts of a node are smaller than a bound. -/
def Below (bound : Nat) : Head → Prop
  | .literal _ | .column _ _ | .row _ => True
  | .member target _ => sizeOf target < bound
  | .unary _ operand => sizeOf operand < bound
  | .binary _ left right | .coalesce left right => sizeOf left < bound ∧ sizeOf right < bound
  | .conditional test yes no => sizeOf test < bound ∧ sizeOf yes < bound ∧ sizeOf no < bound
  | .call _ receiver args => (∀ j ∈ receiver, sizeOf j < bound) ∧ sizeOf args < bound
  | .record members => sizeOf members < bound

/-- What is below a bound is below every larger one. -/
theorem Below.mono {low high : Nat} {head : Head} (h : head.Below low) (hle : low ≤ high) : head.Below high := by
  cases head with
  | call f receiver args => exact ⟨fun j hj => Nat.lt_of_lt_of_le (h.1 j hj) hle, Nat.lt_of_lt_of_le h.2 hle⟩
  | _ => simp only [Below] at h ⊢ <;> omega

/-- A column is read with no parts. -/
theorem column?_below {payload : Json} {head : Head} (h : column? payload = some head) :
    head.Below (sizeOf payload) := by
  simp only [column?, Option.bind_eq_bind, Option.bind_eq_some_iff] at h
  obtain ⟨parts, _, h⟩ := h
  split at h
  · simp only [Option.bind_eq_some_iff, Option.pure_def, Option.some.injEq] at h
    obtain ⟨_, _, _, _, rfl⟩ := h
    trivial
  · cases h

/-- The target of a member is a field of its payload. -/
theorem member?_below {payload : Json} {head : Head} (h : member? payload = some head) :
    head.Below (sizeOf payload) := by
  simp only [member?, Option.bind_eq_bind, Option.bind_eq_some_iff] at h
  obtain ⟨parts, hparts, h⟩ := h
  have hlt := object?_lt hparts
  split at h
  · simp only [Option.bind_eq_some_iff, Option.pure_def, Option.some.injEq] at h
    obtain ⟨_, _, rfl⟩ := h
    exact hlt _ (by simp)
  · cases h

/-- The operand is a field of the payload. -/
theorem unary?_below {payload : Json} {head : Head} (h : unary? payload = some head) :
    head.Below (sizeOf payload) := by
  simp only [unary?, Option.bind_eq_bind, Option.bind_eq_some_iff] at h
  obtain ⟨parts, hparts, h⟩ := h
  have hlt := object?_lt hparts
  split at h
  · simp only [Option.bind_eq_some_iff, Option.pure_def, Option.some.injEq] at h
    obtain ⟨_, _, rfl⟩ := h
    exact hlt _ (by simp)
  · cases h

/-- The two operands are fields of the payload. -/
theorem binary?_below {payload : Json} {head : Head} (h : binary? payload = some head) :
    head.Below (sizeOf payload) := by
  simp only [binary?, Option.bind_eq_bind, Option.bind_eq_some_iff] at h
  obtain ⟨parts, hparts, h⟩ := h
  have hlt := object?_lt hparts
  split at h
  · simp only [Option.bind_eq_some_iff, Option.pure_def, Option.some.injEq] at h
    obtain ⟨_, _, rfl⟩ := h
    exact ⟨hlt _ (by simp), hlt _ (by simp)⟩
  · cases h

/-- The test and both branches are fields of the payload. -/
theorem conditional?_below {payload : Json} {head : Head} (h : conditional? payload = some head) :
    head.Below (sizeOf payload) := by
  simp only [conditional?, Option.bind_eq_bind, Option.bind_eq_some_iff] at h
  obtain ⟨parts, hparts, h⟩ := h
  have hlt := object?_lt hparts
  split at h
  · simp only [Option.pure_def, Option.some.injEq] at h
    subst h
    exact ⟨hlt _ (by simp), hlt _ (by simp), hlt _ (by simp)⟩
  · cases h

/-- Both sides are fields of the payload. -/
theorem coalesce?_below {payload : Json} {head : Head} (h : coalesce? payload = some head) :
    head.Below (sizeOf payload) := by
  simp only [coalesce?, Option.bind_eq_bind, Option.bind_eq_some_iff] at h
  obtain ⟨parts, hparts, h⟩ := h
  have hlt := object?_lt hparts
  split at h
  · simp only [Option.pure_def, Option.some.injEq] at h
    subst h
    exact ⟨hlt _ (by simp), hlt _ (by simp)⟩
  · cases h

/-- A receiver is read from the value that stands for it, if that is not null. -/
theorem eq_of_mem_receiver {target j : Json} (h : j ∈ receiver target) : j = target := by
  cases target <;> simp_all [receiver]

/-- The receiver and the arguments of a call are inside its payload. -/
theorem call?_below {payload : Json} {head : Head} (h : call? payload = some head) :
    head.Below (sizeOf payload) := by
  simp only [call?, Option.bind_eq_bind, Option.bind_eq_some_iff] at h
  obtain ⟨parts, hparts, h⟩ := h
  have hlt := record?_lt hparts
  split at h
  · simp only [Option.bind_eq_some_iff, Option.pure_def, Option.some.injEq] at h
    rename_i origin name target args
    obtain ⟨_, _, _, _, rfl⟩ := h
    have hargs := hlt (.arr args) (by simp)
    simp only [arr.sizeOf_spec] at hargs
    refine ⟨fun j hj => ?_, by omega⟩
    rw [eq_of_mem_receiver hj]
    exact hlt _ (by simp)
  · cases h

/-- The values of a record are inside its payload. -/
theorem members?_below {payload : Json} {head : Head} (h : members? payload = some head) :
    head.Below (sizeOf payload) := by
  cases payload with
  | arr members =>
    cases h
    simp only [Below, arr.sizeOf_spec]
    omega
  | _ => cases h

/-- The parts of a node are smaller than the value that it is read from. -/
theorem decode_below {j : Json} {head : Head} (h : decode j = some head) : head.Below (sizeOf j) := by
  simp only [decode, Option.bind_eq_bind, Option.bind_eq_some_iff] at h
  obtain ⟨⟨kind, payload⟩, hj, h⟩ := h
  have hle := Nat.le_of_lt (payload?_lt hj)
  split at h
  · obtain ⟨_, _, rfl⟩ := Option.map_eq_some_iff.mp h
    trivial
  · exact (column?_below h).mono hle
  · obtain ⟨_, _, rfl⟩ := Option.map_eq_some_iff.mp h
    trivial
  · exact (member?_below h).mono hle
  · exact (unary?_below h).mono hle
  · exact (binary?_below h).mono hle
  · exact (conditional?_below h).mono hle
  · exact (coalesce?_below h).mono hle
  · exact (call?_below h).mono hle
  · exact (members?_below h).mono hle
  · cases h

end Head

end Expr

mutual

/-- Reads an expression. -/
def Expr.decode (j : Json) : Option Expr :=
  match _h : Expr.Head.decode j with
  | none => none
  | some (.literal value) => some (.literal value)
  | some (.column param name) => some (.column param name)
  | some (.row param) => some (.row param)
  | some (.member target name) => do return .member (← Expr.decode target) name
  | some (.unary op operand) => do return .unary op (← Expr.decode operand)
  | some (.binary op left right) => do return .binary op (← Expr.decode left) (← Expr.decode right)
  | some (.conditional test yes no) => do
    return .conditional (← Expr.decode test) (← Expr.decode yes) (← Expr.decode no)
  | some (.coalesce left right) => do return .coalesce (← Expr.decode left) (← Expr.decode right)
  | some (.call f none args) => do return .call f none (← decodeArgs args)
  | some (.call f (some receiver) args) => do
    return .call f (some (← Expr.decode receiver)) (← decodeArgs args)
  | some (.record members) => do return .record (← decodeMembers members)
termination_by sizeOf j
decreasing_by
  all_goals
    have hbelow := Expr.Head.decode_below _h
    simp only [Expr.Head.Below, Option.mem_def, Option.some.injEq, forall_eq'] at hbelow
    omega

/-- Reads arguments. -/
def decodeArgs : List Json → Option (List Expr)
  | [] => some []
  | j :: rest => do
    let e ← Expr.decode j
    let es ← decodeArgs rest
    return e :: es
termination_by items => sizeOf items

/-- Reads the members of a record. -/
def decodeMembers : List Json → Option (List (String × Expr))
  | [] => some []
  | j :: rest =>
    match _h : j.record? [Json.required "name", Json.required "value"] with
    | some [name, value] => do
      let e ← Expr.decode value
      let es ← decodeMembers rest
      return (← name.str?, e) :: es
    | _ => none
termination_by items => sizeOf items
decreasing_by
  · have hlt := Json.record?_lt _h value (by simp)
    simp only [List.cons.sizeOf_spec]
    omega
  · simp only [List.cons.sizeOf_spec]
    omega

end

end FlinkSql
