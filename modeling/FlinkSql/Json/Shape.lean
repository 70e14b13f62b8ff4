import FlinkSql.Dict
import FlinkSql.Json.Value

/-!
# Shapes of JSON values

What a JSON value is when it is read as a record, as one of several variants, as a number of a given range, or as a
dictionary. A record is an object, or an array of its fields in order; members of other names are passed over. The fields of
a variant stand in an object. A reader gives
none for what does not fit.
-/

namespace FlinkSql.Json

/-! ## Parts that are read one by one -/

/-- A truth value. -/
def bool? : Json → Option Bool
  | .bool b => some b
  | _ => none

/-- A text. -/
def str? : Json → Option String
  | .str s => some s
  | _ => none

/-- A whole number between two bounds, both included. -/
def intIn? (low high : Int) : Json → Option Int
  | .int n => if low ≤ n ∧ n ≤ high then some n else none
  | _ => none

/-- A natural number below a bound. -/
def natBelow? (bound : Nat) (v : Json) : Option Nat :=
  (v.intIn? 0 ((bound : Int) - 1)).map Int.toNat

/-- A number. A whole number becomes the nearest double. -/
def float? : Json → Option Float
  | .float x => some x
  | .int n => some (if n < 0 then -(Float.ofNat n.natAbs) else Float.ofNat n.natAbs)
  | _ => none

/-- A value that may be null. -/
def nullable? {α : Type} (read : Json → Option α) : Json → Option (Option α)
  | .null => some none
  | v => (read v).map some

/-- An array. -/
def list? {α : Type} (read : Json → Option α) : Json → Option (List α)
  | .arr items => items.mapM read
  | _ => none

/-- An object as a dictionary; the last of several members with one name counts. -/
def dict? {α : Type} (read : Json → Option α) : Json → Option (Dict α)
  | .obj members => (members.mapM fun m => (read m.2).map fun a => (m.1, a)).map Dict.ofList
  | _ => none

/-! ## Variants -/

/-- A variant: its name alone, or an object with the name and what belongs to it. -/
def variant? : Json → Option (String × Option Json)
  | .str name => some (name, none)
  | .obj [(name, payload)] => some (name, some payload)
  | _ => none

/-- A variant to which something belongs. -/
def payload? : Json → Option (String × Json)
  | .obj [(name, payload)] => some (name, payload)
  | _ => none

/-- A variant to which nothing belongs; its name may stand before null. -/
def unitVariant? (v : Json) : Option String :=
  match v.variant? with
  | some (name, none) => some name
  | some (name, some .null) => some name
  | _ => none

/-- A value of an enumeration. -/
def named? {α : Type} [Named α] (v : Json) : Option α := v.unitVariant?.bind Named.ofName?

/-- A value of an enumeration as JSON. -/
def ofNamed {α : Type} [Named α] (a : α) : Json := .str (Named.name a)

/-- A variant with what belongs to it as JSON. -/
def ofVariant (name : String) (payload : Json) : Json := .obj [(name, payload)]

/-! ## Records -/

/-- A field of a record. -/
structure Field where
  name : String
  /-- Whether the field has to be there; what is not there is null. -/
  required : Bool

/-- A field that has to be there. -/
def required (name : String) : Field := ⟨name, true⟩

/-- A field that may be missing. -/
def optional (name : String) : Field := ⟨name, false⟩

/-- The values of the members with a name. -/
def valuesOf (name : String) (members : List (String × Json)) : List Json :=
  (members.filter fun m => m.1 == name).map (·.2)

/-- The value of a field. A field that occurs twice has none. -/
def fieldValue? (members : List (String × Json)) (f : Field) : Option Json :=
  match valuesOf f.name members with
  | [] => if f.required then none else some .null
  | [v] => some v
  | _ => none

/-- The values of fields, in the order of the fields. -/
def fieldValues? (members : List (String × Json)) : List Field → Option (List Json)
  | [] => some []
  | f :: rest => do
    let v ← fieldValue? members f
    let vs ← fieldValues? members rest
    return v :: vs

/-- The fields of an object, in the order in which they are asked for. -/
def object? (fields : List Field) : Json → Option (List Json)
  | .obj members => fieldValues? members fields
  | _ => none

/-- The fields of a record, in the order in which they are asked for. An array has to hold all of them. -/
def record? (fields : List Field) : Json → Option (List Json)
  | .obj members => fieldValues? members fields
  | .arr items => if items.length = fields.length then some items else none
  | _ => none

/-- The fields of a record of which all may be missing. An array may end early. -/
def partialRecord? (names : List String) : Json → Option (List (Option Json))
  | .obj members =>
    names.mapM fun name =>
      match valuesOf name members with
      | [] => some none
      | [v] => some (some v)
      | _ => none
  | .arr items =>
    if items.length ≤ names.length then
      some (items.map some ++ List.replicate (names.length - items.length) none)
    else none
  | _ => none

/-! ## Parts are smaller than the whole -/

/-- The payload of a variant is smaller than the variant. -/
theorem payload?_lt {v payload : Json} {name : String} (h : v.payload? = some (name, payload)) :
    sizeOf payload < sizeOf v := by
  unfold payload? at h
  split at h
  · cases h
    simp only [obj.sizeOf_spec, List.cons.sizeOf_spec, Prod.mk.sizeOf_spec]
    omega
  · cases h

/-- Null is smaller than any object. -/
theorem sizeOf_null_lt (members : List (String × Json)) : sizeOf (null : Json) < sizeOf (obj members) := by
  have h : 0 < sizeOf members := by
    cases members with
    | nil => simp
    | cons m rest =>
      simp only [List.cons.sizeOf_spec]
      omega
  simp only [null.sizeOf_spec, obj.sizeOf_spec]
  omega

/-- The values of a member are smaller than the members. -/
theorem mem_valuesOf {name : String} {members : List (String × Json)} {v : Json} (h : v ∈ valuesOf name members) :
    sizeOf v < sizeOf members := by
  obtain ⟨m, hm, rfl⟩ := List.mem_map.mp h
  have := List.sizeOf_lt_of_mem (List.mem_filter.mp hm).1
  obtain ⟨n, w⟩ := m
  simp only [Prod.mk.sizeOf_spec] at this ⊢
  omega

/-- What is read for a field is smaller than the object. -/
theorem fieldValue?_lt {members : List (String × Json)} {f : Field} {v : Json} (h : fieldValue? members f = some v) :
    sizeOf v < sizeOf (obj members) := by
  unfold fieldValue? at h
  split at h
  · split at h
    · cases h
    · cases h
      exact sizeOf_null_lt members
  · rename_i w hw
    cases h
    have : sizeOf v < sizeOf members := mem_valuesOf (show v ∈ valuesOf f.name members by simp [hw])
    simp only [obj.sizeOf_spec]
    omega
  · cases h

/-- What is read for several fields is smaller than the object. -/
theorem fieldValues?_lt {members : List (String × Json)} {fields : List Field} {vs : List Json}
    (h : fieldValues? members fields = some vs) : ∀ v ∈ vs, sizeOf v < sizeOf (obj members) := by
  induction fields generalizing vs with
  | nil => cases h; simp
  | cons f rest ih =>
    simp only [fieldValues?, Option.bind_eq_bind, Option.bind_eq_some_iff, Option.pure_def, Option.some.injEq] at h
    obtain ⟨v, hv, ws, hws, rfl⟩ := h
    intro w hw
    rcases List.mem_cons.mp hw with rfl | hw
    · exact fieldValue?_lt hv
    · exact ih hws w hw

/-- Every field of an object is smaller than the object. -/
theorem object?_lt {fields : List Field} {v : Json} {vs : List Json} (h : v.object? fields = some vs) :
    ∀ w ∈ vs, sizeOf w < sizeOf v := by
  cases v with
  | obj members => exact fieldValues?_lt h
  | _ => simp [object?] at h

/-- Every field of a record is smaller than the record. -/
theorem record?_lt {fields : List Field} {v : Json} {vs : List Json} (h : v.record? fields = some vs) :
    ∀ w ∈ vs, sizeOf w < sizeOf v := by
  cases v with
  | obj members => exact fieldValues?_lt h
  | arr items =>
    simp only [record?] at h
    split at h
    · cases h
      intro w hw
      have := List.sizeOf_lt_of_mem hw
      simp only [arr.sizeOf_spec]
      omega
    · cases h
  | _ => simp [record?] at h

end FlinkSql.Json
