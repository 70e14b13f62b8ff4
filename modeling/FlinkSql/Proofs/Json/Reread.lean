import FlinkSql.Snapshot.Plan
import Mathlib.Data.List.Basic

/-!
# Values that are read back

A text in JSON has no words for infinities and for what is not a number: they are written as null, and null is what is read back.
`Json.reread` is the value that the text of a value stands for. Each part of a snapshot has one form as JSON, so a reader gets back
what was written wherever it gets back the parts.
-/

namespace FlinkSql

namespace Json

/-! ## The value of a text -/

mutual

/-- The value that is read back from the text of a value. -/
def reread : Json → Json
  | .float x => if Number.isFinite x then .float x else .null
  | .arr items => .arr (rereadItems items)
  | .obj members => .obj (rereadMembers members)
  | .unreadable => .null
  | v => v

/-- The items of an array that is read back. -/
def rereadItems : List Json → List Json
  | [] => []
  | v :: rest => reread v :: rereadItems rest

/-- The members of an object that is read back. -/
def rereadMembers : List (String × Json) → List (String × Json)
  | [] => []
  | (name, v) :: rest => (name, reread v) :: rereadMembers rest

end

/-- Induction over the forms of values, with every part of an array and of an object at once. -/
@[elab_as_elim]
theorem induction {motive : Json → Prop} (null : motive .null) (bool : ∀ b, motive (.bool b)) (int : ∀ n, motive (.int n))
    (float : ∀ x, motive (.float x)) (str : ∀ s, motive (.str s))
    (arr : ∀ items, (∀ v ∈ items, motive v) → motive (.arr items))
    (obj : ∀ members, (∀ m ∈ members, motive m.2) → motive (.obj members)) (unreadable : motive .unreadable) (v : Json) : motive v :=
  Json.rec (motive_1 := motive) (motive_2 := fun items => ∀ v ∈ items, motive v)
    (motive_3 := fun members => ∀ m ∈ members, motive m.2) (motive_4 := fun m => motive m.2) null bool int float str arr obj
    unreadable (fun _ h => absurd h List.not_mem_nil) (fun _ _ h hrest => List.forall_mem_cons.mpr ⟨h, hrest⟩)
    (fun _ h => absurd h List.not_mem_nil) (fun _ _ h hrest => List.forall_mem_cons.mpr ⟨h, hrest⟩) (fun _ _ h => h) v

theorem rereadItems_eq (items : List Json) : rereadItems items = items.map reread := by
  induction items with
  | nil => rfl
  | cons v rest ih => rw [rereadItems, List.map_cons, ih]

/-- What is no number is written as null. -/
theorem write_of_not_finite {x : Float} (h : ¬Number.isFinite x = true) : numberLayout.write x = "null" := by
  have hbiased : x.toBits.toNat / Number.fractionSize % Number.exponentSize = 2047 := by
    rw [Number.isFinite, decide_eq_true_eq, not_not] at h
    exact h
  rw [Number.Layout.write, Number.kind]
  simp only [if_pos hbiased]
  by_cases hfraction : x.toBits.toNat % Number.fractionSize = 0
  · simp only [if_pos hfraction]
    rfl
  · simp only [if_neg hfraction]
    rfl

/-! ## Parts that are read back -/

/-- An enumeration whose values have different names. -/
class LawfulNamed (α : Type) [Named α] : Prop where
  ofName?_name : ∀ a : α, Named.ofName? (Named.name a) = some a

instance : LawfulNamed Origin where
  ofName?_name a := by cases a <;> rfl

instance : LawfulNamed UnaryOp where
  ofName?_name a := by cases a <;> rfl

instance : LawfulNamed BinaryOp where
  ofName?_name a := by cases a <;> rfl

instance : LawfulNamed WindowKind where
  ofName?_name a := by cases a <;> rfl

instance : LawfulNamed SinkMode where
  ofName?_name a := by cases a <;> rfl

/-- A value of an enumeration is read back from its name. -/
theorem named?_ofNamed {α : Type} [Named α] [LawfulNamed α] (a : α) : (ofNamed a).named? = some a :=
  LawfulNamed.ofName?_name a

variable {α : Type} {write : α → Json} {read : Json → Option α}

/-- A value that may be null is read back if null is not read for a value. -/
theorem nullable?_ofOption (hnull : read .null = none) (o : Option α) :
    (ofOption write o).reread.nullable? read = some o ↔ ∀ a ∈ o, read (write a).reread = some a := by
  cases o with
  | none => exact ⟨fun _ => nofun, fun _ => rfl⟩
  | some a =>
    have hvalue : (write a).reread.nullable? read = some (some a) ↔ read (write a).reread = some a := by
      generalize (write a).reread = v
      cases v with
      | null =>
        rw [hnull]
        exact ⟨nofun, nofun⟩
      | _ => simp [nullable?]
    simp only [ofOption, hvalue, Option.mem_def, Option.some.injEq, forall_eq']

/-- Values in a row are read back if each of them is. -/
theorem mapM_reread (l : List α) : (l.map fun a => (write a).reread).mapM read = some l ↔ ∀ a ∈ l, read (write a).reread = some a := by
  induction l with
  | nil => exact ⟨fun _ => List.forall_mem_nil _, fun _ => rfl⟩
  | cons a l ih =>
    rw [List.forall_mem_cons, ← ih, List.map_cons, List.mapM_cons]
    cases read (write a).reread with
    | none => simp
    | some b => cases List.mapM read (l.map fun a => (write a).reread) <;> simp

/-- An array is read back if each of its items is. -/
theorem list?_reread (l : List α) : (arr (l.map write)).reread.list? read = some l ↔ ∀ a ∈ l, read (write a).reread = some a := by
  rw [reread, rereadItems_eq, List.map_map]
  exact mapM_reread l

end Json

end FlinkSql
