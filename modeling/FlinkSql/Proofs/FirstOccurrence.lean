import Mathlib.Data.List.Induction
import Mathlib.Data.List.Nodup

/-!
# Names where they occur first

`List.eraseDups` keeps of equal names the first. A query reads each of its row types once in this way, and a clause lists each of its
keys once.
-/

namespace FlinkSql

/-- A name is left out where it repeats one before it. -/
theorem eraseDups_concat (names : List String) (name : String) :
    (names ++ [name]).eraseDups = if name ∈ names then names.eraseDups else names.eraseDups ++ [name] := by
  rw [List.eraseDups_append, List.removeAll]
  split
  · rename_i hmem
    rw [List.filter_cons_of_neg (by simp [hmem])]
    exact List.append_nil _
  · rename_i hmem
    rw [List.filter_cons_of_pos (by simp [hmem])]
    rfl

/-- After the erasure no name is repeated. -/
theorem nodup_eraseDups (names : List String) : names.eraseDups.Nodup := by
  induction names using List.reverseRecOn with
  | nil => exact List.nodup_nil
  | append_singleton names name ih =>
    rw [eraseDups_concat]
    split
    · exact ih
    · rename_i hmem
      rw [← List.concat_eq_append]
      exact ih.concat fun h => hmem (List.mem_eraseDups.mp h)

/-- The erasure keeps the order. -/
theorem eraseDups_sublist (names : List String) : names.eraseDups.Sublist names := by
  induction names using List.reverseRecOn with
  | nil => exact List.Sublist.refl _
  | append_singleton names name ih =>
    rw [eraseDups_concat]
    split
    · exact ih.trans (List.sublist_append_left _ _)
    · exact ih.append_right _

/-- Without repetitions nothing is left out. -/
theorem eraseDups_of_nodup {names : List String} (h : names.Nodup) : names.eraseDups = names := by
  induction names using List.reverseRecOn with
  | nil => rfl
  | append_singleton names name ih =>
    have hname : name ∉ names := fun hmem => List.disjoint_of_nodup_append h hmem List.mem_cons_self
    rw [eraseDups_concat, if_neg hname, ih h.of_append_left]

/-- What stands behind names is left out where it repeats one of them, whether they have been told apart already or not. -/
theorem eraseDups_append_of_eraseDups (names more : List String) : (names.eraseDups ++ more).eraseDups = (names ++ more).eraseDups := by
  have hmore : more.removeAll names.eraseDups = more.removeAll names := by
    refine List.filter_congr fun name _ => ?_
    simp only [List.elem_eq_mem, List.mem_eraseDups]
  rw [List.eraseDups_append, List.eraseDups_append, hmore, eraseDups_of_nodup (nodup_eraseDups names)]

/-- The erasure keeps the number of names exactly if none is repeated. -/
theorem length_eraseDups_eq_iff {names : List String} : names.eraseDups.length = names.length ↔ names.Nodup := by
  constructor
  · intro h
    have hsame := (eraseDups_sublist names).eq_of_length h
    exact hsame ▸ nodup_eraseDups names
  · intro h
    rw [eraseDups_of_nodup h]

end FlinkSql
