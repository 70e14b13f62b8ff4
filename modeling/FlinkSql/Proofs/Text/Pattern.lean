import Mathlib.Data.List.Infix

/-!
# Patterns of LIKE

In a pattern `%` stands for any text, `_` for any one character, and any other character for itself. An escape character, if there is one,
makes a wildcard or an escape character behind it stand for itself, and has no other place. `Like.read?` reads a pattern into pieces by
these rules, and `Like.accepts` tries a text against the pieces from left to right, with all that `%` may stand for.
-/

namespace FlinkSql.Like

/-- A piece of a pattern. -/
inductive Piece
  /-- Any text. -/
  | any
  /-- Any one character. -/
  | one
  /-- A character that stands for itself. -/
  | char (c : Char)
  deriving DecidableEq

/-! ## Texts that pieces accept -/

/-- Whether the pieces accept the whole text. -/
def accepts : List Piece → List Char → Bool
  | [], s => s.isEmpty
  | .any :: pieces, s => s.tails.any (accepts pieces)
  | .one :: pieces, s =>
    match s with
    | [] => false
    | _ :: s => accepts pieces s
  | .char c :: pieces, s =>
    match s with
    | [] => false
    | d :: s => d == c && accepts pieces s

/-- A percent sign accepts whatever is in front of a rest that is accepted. -/
theorem accepts_any_iff {pieces : List Piece} {s : List Char} :
    accepts (.any :: pieces) s = true ↔ ∃ t, t <:+ s ∧ accepts pieces t = true := by
  simp only [accepts, List.any_eq_true, List.mem_tails]

/-- An underscore accepts one character. -/
theorem accepts_one_iff {pieces : List Piece} {s : List Char} :
    accepts (.one :: pieces) s = true ↔ ∃ c t, s = c :: t ∧ accepts pieces t = true := by
  cases s <;> simp [accepts]

/-- A character accepts itself. -/
theorem accepts_char_iff {c : Char} {pieces : List Piece} {s : List Char} :
    accepts (.char c :: pieces) s = true ↔ ∃ t, s = c :: t ∧ accepts pieces t = true := by
  cases s <;> simp [accepts, and_assoc]

/-- Pieces behind one another accept a text that can be cut accordingly. -/
theorem accepts_append_iff {front rest : List Piece} {s : List Char} :
    accepts (front ++ rest) s = true ↔ ∃ t u, s = t ++ u ∧ accepts front t = true ∧ accepts rest u = true := by
  induction front generalizing s with
  | nil => simp [accepts]
  | cons piece front ih =>
    rw [List.cons_append]
    cases piece with
    | any =>
      simp only [accepts_any_iff, ih]
      constructor
      · rintro ⟨_, ⟨lead, rfl⟩, t, u, rfl, ht, hu⟩
        exact ⟨lead ++ t, u, (List.append_assoc ..).symm, ⟨t, List.suffix_append lead t, ht⟩, hu⟩
      · rintro ⟨_, u, rfl, ⟨t, ⟨lead, rfl⟩, ht⟩, hu⟩
        exact ⟨t ++ u, ⟨lead, (List.append_assoc ..).symm⟩, t, u, rfl, ht, hu⟩
    | one =>
      simp only [accepts_one_iff, ih]
      constructor
      · rintro ⟨c, _, rfl, t, u, rfl, ht, hu⟩
        exact ⟨c :: t, u, rfl, ⟨c, t, rfl, ht⟩, hu⟩
      · rintro ⟨_, u, rfl, ⟨c, t, rfl, ht⟩, hu⟩
        exact ⟨c, t ++ u, rfl, t, u, rfl, ht, hu⟩
    | char c =>
      simp only [accepts_char_iff, ih]
      constructor
      · rintro ⟨_, rfl, t, u, rfl, ht, hu⟩
        exact ⟨c :: t, u, rfl, ⟨t, rfl, ht⟩, hu⟩
      · rintro ⟨_, u, rfl, ⟨t, rfl, ht⟩, hu⟩
        exact ⟨t ++ u, rfl, t, u, rfl, ht, hu⟩

/-- Characters that stand for themselves accept the text that they are. -/
theorem accepts_chars_iff {text s : List Char} : accepts (text.map .char) s = true ↔ s = text := by
  induction text generalizing s with
  | nil => simp [accepts]
  | cons c text ih =>
    rw [List.map_cons, accepts_char_iff]
    simp [ih]

/-- The piece for any text, if it is wanted. -/
def optional (wanted : Bool) : List Piece := if wanted then [.any] else []

/-- A percent sign at the end accepts everything, and no piece accepts the end only. -/
theorem accepts_optional_iff {wanted : Bool} {s : List Char} : accepts (optional wanted) s = true ↔ (wanted = false → s = []) := by
  cases wanted with
  | true => exact iff_of_true (accepts_any_iff.mpr ⟨[], List.nil_suffix, rfl⟩) nofun
  | false => simp [optional, accepts]

/-- A text in another one, with anything before and after it where that is allowed. -/
def Within (before after : Bool) (part whole : List Char) : Prop :=
  ∃ lead rest, whole = lead ++ part ++ rest ∧ (before = false → lead = []) ∧ (after = false → rest = [])

/-- Pieces between optional wildcards accept a text in which the pieces accept a part. -/
theorem accepts_within_iff {before after : Bool} {pieces : List Piece} {s : List Char} :
    accepts (optional before ++ pieces ++ optional after) s = true ↔
      ∃ part, accepts pieces part = true ∧ Within before after part s := by
  simp only [accepts_append_iff, accepts_optional_iff]
  constructor
  · rintro ⟨_, rest, rfl, ⟨lead, part, rfl, hlead, hpart⟩, hrest⟩
    exact ⟨part, hpart, lead, rest, rfl, hlead, hrest⟩
  · rintro ⟨part, hpart, lead, rest, rfl, hlead, hrest⟩
    exact ⟨lead ++ part, rest, rfl, ⟨lead, part, rfl, hlead, hpart⟩, hrest⟩

/-! ## Reading patterns -/

/-- The piece that a character is where it is not escaped. -/
def piece (c : Char) : Piece := if c = '%' then .any else if c = '_' then .one else .char c

/-- Reads a pattern. It has no reading if an escape character stands before anything but a wildcard or another escape character. -/
def read? (escape : Option Char) : List Char → Option (List Piece)
  | [] => some []
  | [c] => if some c = escape then none else some [piece c]
  | c :: d :: rest =>
    if some c = escape then
      if d = '%' ∨ d = '_' ∨ d = c then (read? escape rest).map (.char d :: ·) else none
    else (read? escape (d :: rest)).map (piece c :: ·)

/-- The pattern accepts the text. -/
def Accepts (escape : Option Char) (pattern s : List Char) : Prop :=
  ∃ pieces, read? escape pattern = some pieces ∧ accepts pieces s = true

instance (escape : Option Char) (pattern s : List Char) : Decidable (Accepts escape pattern s) :=
  match h : read? escape pattern with
  | none => .isFalse fun ⟨_, hread, _⟩ => nomatch h.symm.trans hread
  | some pieces => decidable_of_iff (accepts pieces s = true)
      ⟨fun haccepts => ⟨pieces, h, haccepts⟩, fun ⟨_, hread, haccepts⟩ => Option.some.inj (h.symm.trans hread) ▸ haccepts⟩

/-- A pattern that is read accepts what its pieces accept. -/
theorem accepts_iff_of_read? {escape : Option Char} {pattern s : List Char} {pieces : List Piece} (h : read? escape pattern = some pieces) :
    Accepts escape pattern s ↔ accepts pieces s = true :=
  ⟨fun ⟨_, hread, haccepts⟩ => Option.some.inj (h.symm.trans hread) ▸ haccepts, fun haccepts => ⟨pieces, h, haccepts⟩⟩

section

variable {escape : Option Char} {e c d : Char} {s : List Char}

/-- A character that is no escape character is read by itself. -/
theorem read?_cons (h : some c ≠ escape) : read? escape (c :: s) = (read? escape s).map (piece c :: ·) := by
  cases s with
  | nil =>
    rw [read?, read?, if_neg h]
    rfl
  | cons d rest => rw [read?, if_neg h]

/-- An escape character is read with the character behind it. -/
theorem read?_escape (h : d = '%' ∨ d = '_' ∨ d = e) : read? (some e) (e :: d :: s) = (read? (some e) s).map (.char d :: ·) := by
  rw [read?, if_pos rfl, if_pos h]

/-- Without an escape character every text is a pattern. -/
theorem read?_none (s : List Char) : read? none s = some (s.map piece) := by
  induction s with
  | nil => rfl
  | cons c s ih =>
    rw [read?_cons (Option.some_ne_none c), ih]
    rfl

/-- A pattern in front of another one is read in front of it. -/
theorem read?_append {front rest : List Char} {pieces : List Piece} (h : read? escape front = some pieces) :
    read? escape (front ++ rest) = (read? escape rest).map (pieces ++ ·) := by
  induction front using read?.induct escape generalizing pieces with
  | case1 =>
    cases h
    simp
  | case2 c hc => rw [read?, if_pos hc] at h; cases h
  | case3 c hc =>
    rw [read?, if_neg hc] at h
    cases h
    exact read?_cons hc
  | case4 c d front hc hd ih =>
    rw [read?, if_pos hc, if_pos hd] at h
    obtain ⟨tail, htail, rfl⟩ := Option.map_eq_some_iff.mp h
    rw [List.cons_append, List.cons_append, read?, if_pos hc, if_pos hd, ih htail, Option.map_map]
    rfl
  | case5 c d front hc hd => rw [read?, if_pos hc, if_neg hd] at h; cases h
  | case6 c d front hc ih =>
    rw [read?, if_neg hc] at h
    obtain ⟨tail, htail, rfl⟩ := Option.map_eq_some_iff.mp h
    rw [List.cons_append, read?_cons hc, ih htail, Option.map_map]
    rfl

/-- Wherever an escape character stands, a wildcard or another escape character is behind it, or it is itself the character that an escape
character in front of it makes stand for itself. -/
def EachEscapeFollowed (e : Char) (pattern : List Char) : Prop :=
  ∀ front rest, pattern = front ++ e :: rest →
    ((read? (some e) front).isSome = true ∧ ∃ d ∈ ['%', '_', e], rest.head? = some d) ∨
      ∃ lead, front = lead ++ [e] ∧ (read? (some e) lead).isSome = true

/-- A pattern that has a reading escapes nothing else. -/
theorem eachEscapeFollowed_of_read? {pieces : List Piece} (h : read? (some e) s = some pieces) : EachEscapeFollowed e s := by
  intro front rest hs
  induction s using read?.induct (some e) generalizing front pieces with
  | case1 => cases front <;> cases hs
  | case2 c hc => rw [read?, if_pos hc] at h; cases h
  | case3 c hc =>
    cases front with
    | nil =>
      cases hs
      exact absurd rfl hc
    | cons _ front => cases front <;> cases hs
  | case4 c d s hc hd ih =>
    obtain rfl := Option.some.inj hc
    rw [read?_escape hd] at h
    obtain ⟨tail, htail, rfl⟩ := Option.map_eq_some_iff.mp h
    match front with
    | [] =>
      cases hs
      exact Or.inl ⟨rfl, d, by simpa using hd, rfl⟩
    | [_] =>
      cases hs
      exact Or.inr ⟨[], rfl, rfl⟩
    | _ :: _ :: front =>
      cases hs
      rcases ih htail front rfl with ⟨hfront, hnext⟩ | ⟨lead, rfl, hlead⟩
      · exact Or.inl ⟨by rw [read?_escape hd, Option.isSome_map, hfront], hnext⟩
      · exact Or.inr ⟨c :: d :: lead, rfl, by rw [read?_escape hd, Option.isSome_map, hlead]⟩
  | case5 c d s hc hd => rw [read?, if_pos hc, if_neg hd] at h; cases h
  | case6 c d s hc ih =>
    rw [read?_cons hc] at h
    obtain ⟨tail, htail, rfl⟩ := Option.map_eq_some_iff.mp h
    cases front with
    | nil =>
      cases hs
      exact absurd rfl hc
    | cons _ front =>
      rw [List.cons_append, List.cons.injEq] at hs
      obtain ⟨rfl, hs⟩ := hs
      rcases ih htail front hs with ⟨hfront, hnext⟩ | ⟨lead, rfl, hlead⟩
      · exact Or.inl ⟨by rw [read?_cons hc, Option.isSome_map, hfront], hnext⟩
      · exact Or.inr ⟨c :: lead, rfl, by rw [read?_cons hc, Option.isSome_map, hlead]⟩

end

/-! ## Wildcards -/

/-- There is a wildcard in the text. -/
def HasWildcard (s : List Char) : Prop := '%' ∈ s ∨ '_' ∈ s

/-- Without an escape character, a text accepts itself. -/
theorem accepts_self (s : List Char) : accepts (s.map piece) s = true := by
  induction s with
  | nil => rfl
  | cons c s ih =>
    rw [List.map_cons, piece]
    split_ifs
    · exact accepts_any_iff.mpr ⟨s, List.suffix_cons c s, ih⟩
    · exact accepts_one_iff.mpr ⟨c, s, rfl, ih⟩
    · exact accepts_char_iff.mpr ⟨s, rfl, ih⟩

/-- A text without wildcards accepts no other. -/
theorem map_piece_of_not_hasWildcard {s : List Char} (h : ¬HasWildcard s) : s.map piece = s.map .char := by
  refine List.map_congr_left fun c hc => ?_
  have hany : c ≠ '%' := fun heq => h (Or.inl (heq ▸ hc))
  have hone : c ≠ '_' := fun heq => h (Or.inr (heq ▸ hc))
  rw [piece, if_neg hany, if_neg hone]

/-- A text that a pattern stands for, without a wildcard in it: nothing for any text, and a letter for any one character. -/
def filled (pattern : List Char) : List Char :=
  pattern.filterMap fun c => if c = '%' then none else if c = '_' then some 'a' else some c

/-- A pattern accepts the text that has letters for its wildcards. -/
theorem accepts_filled (pattern : List Char) : accepts (pattern.map piece) (filled pattern) = true := by
  induction pattern with
  | nil => rfl
  | cons c pattern ih =>
    rw [List.map_cons, piece, filled, List.filterMap_cons]
    split_ifs
    · exact accepts_any_iff.mpr ⟨_, List.suffix_rfl, ih⟩
    · exact accepts_one_iff.mpr ⟨'a', _, rfl, ih⟩
    · exact accepts_char_iff.mpr ⟨_, rfl, ih⟩

/-- The text that has letters for the wildcards of a pattern has no wildcards. -/
theorem not_hasWildcard_filled (pattern : List Char) : ¬HasWildcard (filled pattern) := by
  have hmem : ∀ d ∈ filled pattern, d ≠ '%' ∧ d ≠ '_' := by
    intro d hd
    obtain ⟨c, -, hc⟩ := List.mem_filterMap.mp hd
    split_ifs at hc with hany hone
    · cases hc
      decide
    · cases hc
      exact ⟨hany, hone⟩
  rintro (h | h)
  · exact (hmem _ h).1 rfl
  · exact (hmem _ h).2 rfl

end FlinkSql.Like
