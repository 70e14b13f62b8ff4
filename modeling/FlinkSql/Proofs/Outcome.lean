import FlinkSql.Failure
import Mathlib.Data.List.Forall2

/-!
# What is known of an outcome

Writing SQL either succeeds or fails with a cause. `Outcome K P x` says of such a result that its failure is in `K` and its value
in `P`. It goes along the steps of a computation, so one statement about a part serves both for what the whole writes and for
the ways in which it fails.
-/

namespace FlinkSql

variable {α β : Type} {K : Failure → Prop}

/-- The value of the outcome is in `P`, or its failure is in `K`. -/
def Outcome (K : Failure → Prop) (P : α → Prop) : Except Failure α → Prop
  | .ok a => P a
  | .error f => K f

namespace Outcome

/-- The value of a successful outcome is in `P`. -/
theorem value {P : α → Prop} {x : Except Failure α} (h : Outcome K P x) {a : α} (hx : x = .ok a) : P a := by
  subst hx
  exact h

/-- The failure of an outcome is in `K`. -/
theorem failure {P : α → Prop} {x : Except Failure α} (h : Outcome K P x) {f : Failure} (hx : x = .error f) : K f := by
  subst hx
  exact h

/-- An outcome is known by its value and by its failure. -/
theorem intro {P : α → Prop} {x : Except Failure α} (hok : ∀ a, x = .ok a → P a) (herror : ∀ f, x = .error f → K f) :
    Outcome K P x := by
  cases x with
  | ok a => exact hok a rfl
  | error f => exact herror f rfl

theorem mono {K' : Failure → Prop} {P Q : α → Prop} {x : Except Failure α} (h : Outcome K P x) (hK : ∀ f, K f → K' f)
    (hP : ∀ a, P a → Q a) : Outcome K' Q x := by
  cases x with
  | ok a => exact hP a h
  | error f => exact hK f h

/-- A step and what follows it: whatever value the step gives, what follows ends well. -/
theorem bind {P : α → Prop} {Q : β → Prop} {x : Except Failure α} {f : α → Except Failure β} (h : Outcome K P x)
    (hf : ∀ a, P a → Outcome K Q (f a)) : Outcome K Q (x >>= f) := by
  cases x with
  | ok a => exact hf a h
  | error _ => exact h

/-- The same step for each element of a list. -/
theorem mapM {P : β → Prop} {f : α → Except Failure β} {l : List α} (h : ∀ a ∈ l, Outcome K P (f a)) :
    Outcome K (fun bs => ∀ b ∈ bs, P b) (l.mapM f) := by
  induction l with
  | nil => exact fun b hb => absurd hb List.not_mem_nil
  | cons a l ih =>
    rw [List.mapM_cons]
    refine (h a List.mem_cons_self).bind fun b hb => ?_
    refine (ih fun a ha => h a (List.mem_cons_of_mem _ ha)).bind fun bs hbs => ?_
    exact List.forall_mem_cons.mpr ⟨hb, hbs⟩

end Outcome

/-! ## Steps that succeed -/

/-- The value of a step and of what follows it. -/
theorem toOption_bind (x : Except Failure α) (f : α → Except Failure β) :
    (x >>= f).toOption = x.toOption.bind fun a => (f a).toOption := by
  cases x with
  | ok a => rfl
  | error f => rfl

/-- A result whose value is there is that value. -/
theorem eq_ok_of_toOption {x : Except Failure α} {a : α} (h : x.toOption = some a) : x = .ok a := by
  cases x with
  | ok b => exact congrArg Except.ok (Option.some.inj h)
  | error f => cases h

/-- Steps one after the other succeed when the first does and what follows its value does. -/
theorem bind_eq_ok {x : Except Failure α} {f : α → Except Failure β} {b : β} :
    (x >>= f) = .ok b ↔ ∃ a, x = .ok a ∧ f a = .ok b := by
  cases x with
  | ok a => exact ⟨fun h => ⟨a, rfl, h⟩, fun ⟨_, ha, h⟩ => by cases ha; exact h⟩
  | error f => exact ⟨nofun, nofun⟩

/-- Steps one after the other fail when the first does, or what follows its value. -/
theorem bind_eq_error {x : Except Failure α} {f : α → Except Failure β} {failure : Failure} :
    (x >>= f) = .error failure ↔ x = .error failure ∨ ∃ a, x = .ok a ∧ f a = .error failure := by
  cases x with
  | ok a =>
    refine ⟨fun h => Or.inr ⟨a, rfl, h⟩, fun h => ?_⟩
    obtain h | ⟨_, ha, h⟩ := h
    · cases h
    · cases ha
      exact h
  | error e => exact ⟨fun h => Or.inl (congrArg Except.error (Except.error.inj h)), fun h => by
      obtain h | ⟨_, ha, -⟩ := h
      · cases h
        rfl
      · cases ha⟩

/-- Where steps in a row succeed, their values are those of the steps, in order. -/
theorem forall₂_of_mapM_eq_ok {f : α → Except Failure β} {l : List α} {bs : List β} (h : l.mapM f = .ok bs) :
    List.Forall₂ (fun a b => f a = .ok b) l bs := by
  induction l generalizing bs with
  | nil =>
    cases h
    exact .nil
  | cons a l ih =>
    rw [List.mapM_cons] at h
    obtain ⟨b, hb, h⟩ := bind_eq_ok.mp h
    obtain ⟨rest, hrest, h⟩ := bind_eq_ok.mp h
    cases h
    exact .cons hb (ih hrest)

/-- Steps in a row succeed with the values that each of them gives. -/
theorem mapM_eq_ok_of_forall₂ {f : α → Except Failure β} {l : List α} {bs : List β} (h : List.Forall₂ (fun a b => f a = .ok b) l bs) :
    l.mapM f = .ok bs := by
  induction h with
  | nil => rfl
  | cons hhead _ ih =>
    rw [List.mapM_cons, hhead, ih]
    rfl

/-- Steps in a row that are the same for each element have the same outcome. -/
theorem mapM_congr {f g : α → Except Failure β} {l : List α} (h : ∀ a ∈ l, f a = g a) : l.mapM f = l.mapM g :=
  calc l.mapM f
    _ = (l.map f).mapM id := (List.mapM_map (g := id)).symm
    _ = (l.map g).mapM id := by rw [List.map_congr_left h]
    _ = l.mapM g := List.mapM_map (g := id)

/-- What is on the left of a relation between lists has its partner on the right. -/
theorem exists_of_forall₂ {R : α → β → Prop} {l : List α} {m : List β} (h : List.Forall₂ R l m) : ∀ a ∈ l, ∃ b ∈ m, R a b := by
  induction h with
  | nil => exact List.forall_mem_nil _
  | cons hhead hrest ih =>
    refine List.forall_mem_cons.mpr ⟨⟨_, List.mem_cons_self, hhead⟩, fun a ha => ?_⟩
    obtain ⟨b, hb, hab⟩ := ih a ha
    exact ⟨b, List.mem_cons_of_mem _ hb, hab⟩

/-- Where steps in a row succeed, each of them does. -/
theorem exists_of_mapM_eq_ok {f : α → Except Failure β} {l : List α} {bs : List β} (h : l.mapM f = .ok bs) :
    ∀ a ∈ l, ∃ b ∈ bs, f a = .ok b :=
  exists_of_forall₂ (forall₂_of_mapM_eq_ok h)

/-- Where steps in a row succeed, what holds of the value of each holds of all values. -/
theorem forall_of_mapM_eq_ok {P : β → Prop} {f : α → Except Failure β} {l : List α} {bs : List β} (h : l.mapM f = .ok bs)
    (hf : ∀ a ∈ l, ∀ b, f a = .ok b → P b) : ∀ b ∈ bs, P b := by
  intro b hb
  obtain ⟨a, ha, hvalue⟩ := exists_of_forall₂ (forall₂_of_mapM_eq_ok h).flip b hb
  exact hf a ha b hvalue

/-- Where steps in a row succeed, each position has both or neither a step and its value. -/
theorem getElem?_of_mapM_eq_ok {f : α → Except Failure β} {l : List α} {bs : List β} (h : l.mapM f = .ok bs) (i : Nat) :
    (l[i]? = none ∧ bs[i]? = none) ∨ ∃ a b, l[i]? = some a ∧ bs[i]? = some b ∧ f a = .ok b := by
  induction l generalizing bs i with
  | nil =>
    cases h
    exact Or.inl ⟨rfl, rfl⟩
  | cons a l ih =>
    rw [List.mapM_cons] at h
    obtain ⟨b, hb, h⟩ := bind_eq_ok.mp h
    obtain ⟨rest, hrest, h⟩ := bind_eq_ok.mp h
    cases h
    cases i with
    | zero => exact Or.inr ⟨a, b, rfl, rfl, hb⟩
    | succ i => exact ih hrest i

/-- What is read from the value of each step in a row. -/
theorem map_eq_of_mapM_eq_ok {γ : Type} {f : α → Except Failure β} {g : β → γ} {k : α → γ}
    (h : ∀ a b, f a = .ok b → g b = k a) {l : List α} {bs : List β} (hl : l.mapM f = .ok bs) : bs.map g = l.map k := by
  have hread : List.Forall₂ (fun a b => k a = g b) l bs := (forall₂_of_mapM_eq_ok hl).imp fun a b hab => (h a b hab).symm
  have hmapped : List.Forall₂ (· = ·) (l.map k) (bs.map g) := List.forall₂_map_left_iff.mpr (List.forall₂_map_right_iff.mpr hread)
  rw [List.forall₂_eq_eq_eq] at hmapped
  exact hmapped.symm

/-- Steps in a row give as many values. -/
theorem length_of_mapM_eq_ok {f : α → Except Failure β} {l : List α} {bs : List β} (h : l.mapM f = .ok bs) : bs.length = l.length :=
  (forall₂_of_mapM_eq_ok h).length_eq.symm

/-! ## Whether steps succeed -/

/-- There is a value. -/
def Succeeds (x : Except Failure α) : Prop := ∃ a, x = .ok a

theorem succeeds_ok (a : α) : Succeeds (.ok a) := ⟨a, rfl⟩

theorem not_succeeds_error (f : Failure) : ¬Succeeds (.error f : Except Failure α) := by
  rintro ⟨_, h⟩
  cases h

/-- What does not succeed fails with a cause. -/
theorem not_succeeds_iff {x : Except Failure α} : ¬Succeeds x ↔ ∃ f, x = .error f := by
  cases x with
  | ok a => exact ⟨fun h => absurd (succeeds_ok a) h, nofun⟩
  | error f => exact ⟨fun _ => ⟨f, rfl⟩, fun _ => not_succeeds_error f⟩

/-- Behind a step that succeeds, the rest decides. -/
theorem succeeds_bind_of_ok {x : Except Failure α} {f : α → Except Failure β} {a : α} (h : x = .ok a) :
    Succeeds (x >>= f) ↔ Succeeds (f a) := by
  subst h
  exact Iff.rfl

/-- In front of what succeeds in any case, the first step decides. -/
theorem succeeds_bind {x : Except Failure α} {f : α → Except Failure β} (hf : ∀ a, x = .ok a → Succeeds (f a)) :
    Succeeds (x >>= f) ↔ Succeeds x := by
  constructor
  · rintro ⟨b, h⟩
    obtain ⟨a, ha, -⟩ := bind_eq_ok.mp h
    exact ⟨a, ha⟩
  · rintro ⟨a, ha⟩
    exact (succeeds_bind_of_ok ha).mpr (hf a ha)

/-- Steps in a row succeed if each of them does. -/
theorem succeeds_mapM_iff {f : α → Except Failure β} {l : List α} : Succeeds (l.mapM f) ↔ ∀ a ∈ l, Succeeds (f a) := by
  constructor
  · rintro ⟨bs, h⟩ a ha
    obtain ⟨b, -, hb⟩ := exists_of_mapM_eq_ok h a ha
    exact ⟨b, hb⟩
  · intro h
    induction l with
    | nil => exact succeeds_ok []
    | cons a l ih =>
      obtain ⟨⟨b, hb⟩, hrest⟩ := List.forall_mem_cons.mp h
      rw [List.mapM_cons, succeeds_bind_of_ok hb]
      exact (succeeds_bind fun _ _ => succeeds_ok _).mpr (ih hrest)

end FlinkSql
