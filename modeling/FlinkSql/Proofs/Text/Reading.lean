import FlinkSql.Text.Quoted
import Mathlib.Data.List.Basic

/-!
# Reading texts back

`after?` reads a fixed word at the start of a text, and `unquoted?` a quoted text behind its opening quote. A reader returns what
follows, so readers are put one behind the other; each reads back what was written, whatever is written behind it that cannot
be taken for more of the same.
-/

namespace FlinkSql.Text

/-- What follows a word at the start of a text. -/
def after? (word : String) (s : List Char) : Option (List Char) := s.dropPrefix? word.toList

theorem after?_append (word : String) (s : List Char) : after? word (word.toList ++ s) = some s :=
  List.dropPrefix?_append_of_beq s BEq.rfl

/-- A text that starts with a word is the word and what follows it. -/
theorem after?_eq_some_iff {word : String} {s rest : List Char} : after? word s = some rest ↔ s = word.toList ++ rest := by
  rw [after?, List.dropPrefix?_eq_some_iff]
  constructor
  · rintro ⟨lead, rfl, hlead⟩
    rw [beq_iff_eq.mp hlead]
  · intro h
    exact ⟨word.toList, h, BEq.rfl⟩

/-- A word is not read where another one stands that does not begin with it, and with which it does not begin. -/
theorem after?_of_not_prefix {word other : String} (h : ¬word.toList <+: other.toList) (h' : ¬other.toList <+: word.toList)
    (s : List Char) : after? word (other.toList ++ s) = none := by
  rw [Option.eq_none_iff_forall_ne_some]
  intro rest hrest
  have hword : word.toList <+: other.toList ++ s := ⟨rest, (after?_eq_some_iff.mp hrest).symm⟩
  rcases List.prefix_or_prefix_of_prefix hword (List.prefix_append _ s) with hshort | hshort
  · exact h hshort
  · exact h' hshort

/-- Reads a quoted text behind its opening quote: the text, in which a doubled quote stands for one, and what follows the closing
quote. -/
def unquoted? (q : Char) : List Char → Option (List Char × List Char)
  | [] => none
  | [c] => if c = q then some ([], []) else none
  | c :: d :: rest =>
    if c = q then
      if d = q then (unquoted? q rest).map fun (s, rest) => (q :: s, rest) else some ([], d :: rest)
    else (unquoted? q (d :: rest)).map fun (s, rest) => (c :: s, rest)

/-- The closing quote ends the text when no quote follows it. -/
theorem unquoted?_closing {q : Char} {rest : List Char} (h : rest.head? ≠ some q) : unquoted? q (q :: rest) = some ([], rest) := by
  cases rest with
  | nil => rw [unquoted?, if_pos rfl]
  | cons d rest =>
    have hd : d ≠ q := fun hd => h (congrArg some hd)
    rw [unquoted?, if_pos rfl, if_neg hd]

/-- A quoted text is read back, with whatever follows it that is no quote. -/
theorem unquoted?_doubled {q : Char} (s : List Char) {rest : List Char} (h : rest.head? ≠ some q) :
    unquoted? q (doubled q s ++ q :: rest) = some (s, rest) := by
  induction s with
  | nil => exact unquoted?_closing h
  | cons c s ih =>
    have hcons : doubled q (c :: s) = (if c = q then [q, q] else [c]) ++ doubled q s := rfl
    rw [hcons, List.append_assoc]
    by_cases hc : c = q
    · subst hc
      rw [if_pos rfl, List.cons_append, List.cons_append, List.nil_append, unquoted?, if_pos rfl, if_pos rfl, ih]
      rfl
    · rw [if_neg hc, List.cons_append, List.nil_append]
      -- what follows the character is not empty: at least the closing quote is there
      cases hrest : doubled q s ++ q :: rest with
      | nil => exact absurd hrest (by simp)
      | cons d t =>
        rw [unquoted?, if_neg hc, ← hrest, ih]
        rfl

/-- A quoted text is read only where it was written: nothing else is taken for one. -/
theorem unquoted?_eq_some_iff {q : Char} {s t rest : List Char} :
    unquoted? q s = some (t, rest) ↔ s = doubled q t ++ q :: rest ∧ rest.head? ≠ some q := by
  constructor
  · intro h
    induction s using unquoted?.induct q generalizing t rest with
    | case1 => cases h
    | case2 =>
      rw [unquoted?, if_pos rfl] at h
      cases h
      exact ⟨rfl, nofun⟩
    | case3 c hc =>
      rw [unquoted?, if_neg hc] at h
      cases h
    | case4 s ih =>
      rw [unquoted?, if_pos rfl, if_pos rfl] at h
      obtain ⟨⟨t', rest'⟩, ht, h⟩ := Option.map_eq_some_iff.mp h
      cases h
      obtain ⟨rfl, hrest⟩ := ih ht
      refine ⟨?_, hrest⟩
      simp [doubled]
    | case5 d s hd =>
      rw [unquoted?, if_pos rfl, if_neg hd] at h
      cases h
      exact ⟨rfl, fun hhead => hd (Option.some.inj hhead)⟩
    | case6 c d s hc ih =>
      rw [unquoted?, if_neg hc] at h
      obtain ⟨⟨t', rest'⟩, ht, h⟩ := Option.map_eq_some_iff.mp h
      cases h
      obtain ⟨hs, hrest⟩ := ih ht
      refine ⟨?_, hrest⟩
      rw [hs]
      simp [doubled, hc]
  · rintro ⟨rfl, hrest⟩
    exact unquoted?_doubled t hrest

/-- A text without quotes is not changed by doubling them. -/
theorem doubled_of_not_mem {q : Char} {s : List Char} (h : q ∉ s) : doubled q s = s := by
  induction s with
  | nil => rfl
  | cons c s ih =>
    obtain ⟨hc, hrest⟩ := not_or.mp (List.mem_cons.not.mp h)
    have hcons : doubled q (c :: s) = (if c = q then [q, q] else [c]) ++ doubled q s := rfl
    rw [hcons, if_neg (Ne.symm hc), ih hrest]
    rfl

/-! ## Words -/

/-- The class of characters in a word and the character behind it determine where the word ends. -/
theorem takeWhile_append_of_head {p : Char → Bool} {word rest : List Char} (hword : ∀ c ∈ word, p c = true)
    (hrest : ∀ c ∈ rest.head?, p c = false) : (word ++ rest).takeWhile p = word := by
  rw [List.takeWhile_append_of_pos hword]
  cases rest with
  | nil => rw [List.takeWhile_nil, List.append_nil]
  | cons c rest => rw [List.takeWhile_cons, hrest c rfl, if_neg Bool.false_ne_true, List.append_nil]

theorem dropWhile_append_of_head {p : Char → Bool} {word rest : List Char} (hword : ∀ c ∈ word, p c = true)
    (hrest : ∀ c ∈ rest.head?, p c = false) : (word ++ rest).dropWhile p = rest := by
  rw [List.dropWhile_append_of_pos hword]
  cases rest with
  | nil => rfl
  | cons c rest => rw [List.dropWhile_cons, hrest c rfl, if_neg Bool.false_ne_true]

end FlinkSql.Text
