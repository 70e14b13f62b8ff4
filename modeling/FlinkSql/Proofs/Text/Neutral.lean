import FlinkSql.Proofs.Text.Confined

/-!
# Pieces of statements

What the pieces of a statement do to the reading of it: quoted texts and words leave it where it is, whatever the caller wrote
between the quotes, and a bracket is closed by the piece that opened it.
-/

namespace FlinkSql.Text

/-- Reading the piece leads from `r` to `r'`. -/
def Reads (r : Reader) (s : String) (r' : Reader) : Prop := r.read s.toList = some r'

/-- A piece followed by another one. -/
theorem Reads.append {a b c : Reader} {s t : String} (h : Reads a s b) (h' : Reads b t c) : Reads a (s ++ t) c := by
  rw [Reads, String.toList_append, Reader.read_append, h]
  exact h'

/-- Reading the piece outside quoted regions ends outside them, and leads from the open brackets `b` to `b'`. -/
def Shifts (b : List Char) (s : String) (b' : List Char) : Prop := Reads ⟨none, b⟩ s ⟨none, b'⟩

/-- A piece that changes nothing: its quoted regions end, its brackets are closed, and it has no semicolon outside the former. -/
def Neutral (s : String) : Prop := Shifts [] s []

theorem Shifts.append {a b c : List Char} {s t : String} (h : Shifts a s b) (h' : Shifts b t c) : Shifts a (s ++ t) c :=
  Reads.append h h'

/-- A neutral piece is neutral inside any brackets. -/
theorem Neutral.shifts {s : String} (h : Neutral s) (b : List Char) : Shifts b s b := Reader.read_frame h b

/-- A piece followed by a neutral one. -/
theorem Shifts.then {a b : List Char} {s t : String} (h : Shifts a s b) (ht : Neutral t) : Shifts a (s ++ t) b :=
  h.append (ht.shifts b)

theorem Neutral.append {s t : String} (hs : Neutral s) (ht : Neutral t) : Neutral (s ++ t) := Shifts.then hs ht

theorem neutral_empty : Neutral "" := rfl

/-- Neutral pieces with a neutral separator between them. -/
theorem Neutral.intercalate {separator : String} {texts : List String} (h : Neutral separator)
    (ht : ∀ t ∈ texts, Neutral t) : Neutral (separator.intercalate texts) := by
  induction texts with
  | nil => exact neutral_empty
  | cons t rest ih =>
    obtain ⟨hhead, hrest⟩ := List.forall_mem_cons.mp ht
    cases rest with
    | nil =>
      rw [String.intercalate_singleton]
      exact hhead
    | cons u rest =>
      rw [String.intercalate_cons_cons]
      exact (hhead.append h).append (ih hrest)

/-- An opening parenthesis is one more open bracket. -/
theorem opening (b : List Char) : Shifts b "(" ('(' :: b) := rfl

/-- A closing parenthesis closes the last one. -/
theorem closing (b : List Char) : Shifts ('(' :: b) ")" b := rfl

theorem neutral_blank : Neutral " " := rfl

theorem neutral_comma : Neutral ", " := rfl

/-! ## Words -/

/-- The characters that reading looks at. -/
def marks : List Char := [singleQuote, backtick, '(', ')', '[', ']', ';']

/-- A character that is no mark leaves the reading outside quoted regions where it is. -/
theorem next_of_not_mark {c : Char} (h : c ∉ marks) (b : List Char) : (⟨none, b⟩ : Reader).next c = some ⟨none, b⟩ := by
  simp only [marks, List.mem_cons, List.not_mem_nil, or_false, not_or] at h
  obtain ⟨hsingle, hback, hopen, hclose, hopen', hclose', hsemi⟩ := h
  have hquote : isQuote c = false := by simp [isQuote, hsingle, hback]
  have hbrackets : nextBrackets b c = some b := by simp [nextBrackets, hopen, hclose, hopen', hclose']
  simp [Reader.next, hquote, hsemi, hbrackets]

/-- A text without marks. -/
def Unmarked (s : List Char) : Prop := ∀ c ∈ s, c ∉ marks

/-- A text without marks is neutral. -/
theorem Unmarked.neutral {s : List Char} (h : Unmarked s) : Neutral (String.ofList s) := by
  rw [Neutral, Shifts, Reads, String.toList_ofList]
  induction s with
  | nil => rfl
  | cons c s ih =>
    obtain ⟨hc, hrest⟩ := List.forall_mem_cons.mp h
    rw [Reader.read, next_of_not_mark hc]
    exact ih hrest

/-! ## Quoted texts -/

/-- Inside a quoted region, a text in which every quote is doubled leads back inside it. -/
theorem read_doubled (q : Char) (hq : isQuote q = true) (b s : List Char) :
    (⟨some q, b⟩ : Reader).read (doubled q s) = some ⟨some q, b⟩ := by
  induction s with
  | nil => rfl
  | cons c s ih =>
    have hcons : doubled q (c :: s) = (if c = q then [q, q] else [c]) ++ doubled q s := rfl
    rw [hcons, Reader.read_append]
    -- a doubled quote ends the region and opens it again; anything else stays inside
    have hstep : (⟨some q, b⟩ : Reader).read (if c = q then [q, q] else [c]) = some ⟨some q, b⟩ := by
      by_cases hc : c = q
      · simp [hc, Reader.read, Reader.next, nextRegion, hq]
      · simp [hc, Reader.read, Reader.next, nextRegion]
    rw [hstep]
    exact ih

/-- A quoted text is neutral, whatever the text is. -/
theorem neutral_quoted {q : Char} (hq : isQuote q = true) (s : String) : Neutral (quoted q s) := by
  rw [Neutral, Shifts, Reads, quoted, String.toList_ofList, List.cons_append, Reader.read, Reader.next]
  rw [if_neg (by simp [hq]), Option.bind_some, Reader.read_append]
  simp only [nextRegion, hq, if_true, read_doubled q hq, Option.bind_some]
  simp [Reader.read, Reader.next, nextRegion]

/-- A text that does not end a region between single quotes. -/
def Held (s : String) : Prop := ∀ b, Reads ⟨some singleQuote, b⟩ s ⟨some singleQuote, b⟩

theorem Held.append {s t : String} (hs : Held s) (ht : Held t) : Held (s ++ t) := fun b => (hs b).append (ht b)

/-- A text without single quotes does not end the region. -/
theorem held_of_not_mem {s : List Char} (h : singleQuote ∉ s) : Held (String.ofList s) := by
  intro b
  rw [Reads, String.toList_ofList]
  induction s with
  | nil => rfl
  | cons c s ih =>
    obtain ⟨hne, hrest⟩ := not_or.mp (List.mem_cons.not.mp h)
    have hregion : nextRegion (some singleQuote) c = some singleQuote := if_neg (Ne.symm hne)
    rw [Reader.read, Reader.next, if_neg (by simp), hregion]
    exact ih hrest

/-- A string is neutral, whatever it holds. -/
theorem neutral_quotedString (s : String) : Neutral (quotedString s) := neutral_quoted (by decide) s

/-- A quoted name is neutral, whatever it holds. -/
theorem neutral_quotedName (s : String) : Neutral (quotedName s) := neutral_quoted (by decide) s

/-! ## Statements -/

/-- A neutral piece with a semicolon behind it is confined. -/
theorem Neutral.confined {s : String} (h : Neutral s) : Confined (s ++ ";") := by
  obtain ⟨hregion, hnested, hsemi⟩ := Reader.read_sound h
  have htext : (s ++ ";").toList = s.toList ++ [';'] := by
    rw [String.toList_append]
    rfl
  have hclosed : regionAfter none (s ++ ";").toList = none := by
    rw [htext, regionAfter, List.foldl_append, show s.toList.foldl nextRegion none = none from hregion]
    rfl
  have houtside : outside none (s ++ ";").toList = outside none s.toList ++ [';'] := by
    rw [htext, outside_append, hregion]
    rfl
  have hbrackets : bracketsAfter [] (outside none (s ++ ";").toList) = some [] := by
    rw [houtside, bracketsAfter, List.foldlM_append,
      show (outside none s.toList).foldlM nextBrackets [] = some [] from hnested]
    rfl
  exact ⟨hclosed, hbrackets, balanced_of_nested hbrackets (by decide), balanced_of_nested hbrackets (by decide),
    s.toList, htext, hregion, hsemi⟩

end FlinkSql.Text
