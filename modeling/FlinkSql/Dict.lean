/-!
# Values by name

Dictionaries hold values by name, in the order of the names; the order is that of code points, and no name occurs twice. The
values of an enumeration have names of their own, by which they go in snapshots and messages.
-/

namespace FlinkSql

/-! ## Enumerations -/

/-- An enumeration with a name for each value. -/
class Named (α : Type) where
  /-- All values. -/
  all : List α
  /-- The name of a value. -/
  name : α → String

/-- The value with a name. -/
def Named.ofName? {α : Type} [Named α] (name : String) : Option α :=
  (Named.all : List α).find? fun a => Named.name a == name

/-! ## Dictionaries -/

/-- Values by name, sorted. -/
structure Dict (α : Type) where
  entries : List (String × α)
  sorted : entries.Pairwise fun a b => a.1 < b.1

namespace Dict

variable {α : Type}

/-- No entries. -/
def empty : Dict α := ⟨[], .nil⟩

instance : Inhabited (Dict α) := ⟨empty⟩

/-- Puts an entry where its name belongs, in place of one with the same name. -/
def put (name : String) (value : α) : List (String × α) → List (String × α)
  | [] => [(name, value)]
  | (n, v) :: rest =>
    if name < n then (name, value) :: (n, v) :: rest
    else if n < name then (n, v) :: put name value rest
    else (name, value) :: rest

/-- Putting an entry brings in no other name. -/
theorem mem_put {name : String} {value : α} {l : List (String × α)} {e : String × α} (h : e ∈ put name value l) :
    e = (name, value) ∨ e ∈ l := by
  induction l with
  | nil => exact Or.inl (by simpa [put] using h)
  | cons x rest ih =>
    obtain ⟨n, v⟩ := x
    simp only [put] at h
    split at h
    · simpa using h
    · split at h
      · rcases List.mem_cons.mp h with h | h
        · exact Or.inr (by simp [h])
        · rcases ih h with h | h
          · exact Or.inl h
          · exact Or.inr (List.mem_cons_of_mem _ h)
      · rcases List.mem_cons.mp h with h | h
        · exact Or.inl h
        · exact Or.inr (List.mem_cons_of_mem _ h)

/-- Putting an entry keeps the entries sorted. -/
theorem pairwise_put {name : String} {value : α} {l : List (String × α)}
    (h : l.Pairwise fun a b => a.1 < b.1) : (put name value l).Pairwise fun a b => a.1 < b.1 := by
  induction l with
  | nil => exact .cons (by simp) .nil
  | cons x rest ih =>
    obtain ⟨n, v⟩ := x
    obtain ⟨hx, hrest⟩ := List.pairwise_cons.mp h
    simp only [put]
    split
    · rename_i hlt
      refine .cons (fun e he => ?_) h
      rcases List.mem_cons.mp he with rfl | he
      · exact hlt
      · exact String.lt_trans hlt (hx e he)
    · split
      · rename_i hlt
        refine .cons (fun e he => ?_) (ih hrest)
        rcases mem_put he with rfl | he
        · exact hlt
        · exact hx e he
      · rename_i h1 h2
        have heq : name = n := String.le_antisymm (String.not_lt.mp h2) (String.not_lt.mp h1)
        subst heq
        exact .cons (fun e he => hx e he) hrest

/-- Sets the value of a name. -/
def insert (d : Dict α) (name : String) (value : α) : Dict α :=
  ⟨put name value d.entries, pairwise_put d.sorted⟩

/-- The entries of a list; of several with one name the last one counts. -/
def ofList (l : List (String × α)) : Dict α := l.foldl (fun d e => d.insert e.1 e.2) empty

/-- The value of a name. -/
def get? (d : Dict α) (name : String) : Option α := d.entries.lookup name

end Dict

end FlinkSql
