import FlinkSql.Text.Character
import Mathlib.Data.List.DropRight

/-!
# Trimmed texts

What is left of a text when a class of characters is removed from its ends: a part of it that neither begins nor ends with such a
character, and the text itself if it has none at its ends.
-/

namespace FlinkSql.Text

variable {p : Char → Bool} {s : List Char}

/-- Dropping from the end leaves the front. -/
theorem isPrefix_dropEndWhile (p : Char → Bool) (s : List Char) : dropEndWhile p s <+: s := List.rdropWhile_prefix p s

/-- Trimming leaves an inner part of the text. -/
theorem isInfix_trimWhere (p : Char → Bool) (s : List Char) : trimWhere p s <:+: s :=
  (isPrefix_dropEndWhile p _).isInfix.trans (List.dropWhile_suffix p).isInfix

/-- What is left after dropping does not begin with a character that is dropped. -/
theorem not_of_head?_dropWhile {c : Char} (h : (s.dropWhile p).head? = some c) : p c = false := by
  have hfirst := List.head?_dropWhile_not p s
  rw [h] at hfirst
  exact hfirst

/-- A trimmed text begins with none of the characters. -/
theorem not_of_head?_trimWhere {c : Char} (h : (trimWhere p s).head? = some c) : p c = false := by
  obtain ⟨rest, hrest⟩ := isPrefix_dropEndWhile p (s.dropWhile p)
  refine not_of_head?_dropWhile (s := s) ?_
  rw [← hrest, List.head?_append]
  exact Option.or_of_isSome (h ▸ rfl) |>.trans h

/-- A trimmed text ends with none of the characters. -/
theorem not_of_getLast?_trimWhere {c : Char} (h : (trimWhere p s).getLast? = some c) : p c = false := by
  rw [trimWhere, dropEndWhile, List.getLast?_reverse] at h
  exact not_of_head?_dropWhile h

/-- Nothing is dropped from the end if the last character stays. -/
theorem dropEndWhile_eq_self (h : ∀ c ∈ s.getLast?, p c = false) : dropEndWhile p s = s := by
  refine List.rdropWhile_eq_self_iff.mpr fun hs => ?_
  rw [h _ (List.getLast_mem_getLast? hs)]
  exact Bool.false_ne_true

theorem dropWhile_eq_self (h : ∀ c ∈ s.head?, p c = false) : s.dropWhile p = s := by
  cases s with
  | nil => rfl
  | cons c s => rw [List.dropWhile_cons, h c rfl, if_neg Bool.false_ne_true]

/-- There is nothing to trim where the ends are no such characters. -/
theorem trimWhere_eq_self (hfirst : ∀ c ∈ s.head?, p c = false) (hlast : ∀ c ∈ s.getLast?, p c = false) :
    trimWhere p s = s := by
  rw [trimWhere, dropWhile_eq_self hfirst, dropEndWhile_eq_self hlast]

/-- What stands in front of something that is left is left as it is. -/
theorem dropEndWhile_append (s t : List Char) :
    dropEndWhile p (s ++ t) = if dropEndWhile p t = [] then dropEndWhile p s else s ++ dropEndWhile p t := by
  simp only [dropEndWhile, List.reverse_append, List.dropWhile_append, List.reverse_eq_nil_iff, List.isEmpty_iff]
  split_ifs
  · rfl
  · rw [List.reverse_append, List.reverse_reverse]

/-- A character that may be dropped is dropped from the end if all behind it is. -/
theorem dropEndWhile_cons_of_pos {c : Char} (hc : p c = true) (s : List Char) :
    dropEndWhile p (c :: s) = if dropEndWhile p s = [] then [] else c :: dropEndWhile p s := by
  have hone : dropEndWhile p [c] = [] := (List.rdropWhile_singleton p c).trans (if_pos hc)
  rw [← List.singleton_append, dropEndWhile_append, hone, List.singleton_append]

end FlinkSql.Text
