import FlinkSql.Proofs.Name
import FlinkSql.Proofs.Text.Trimmed

/-!
# Normalized names are identifiers

`IsIdentifier` says what may stand for a table or a column. Every normalized name is an identifier, whatever text it comes from,
and the identifiers are exactly the names that normalizing leaves as they are. So normalizing twice, for tables or for columns, is
normalizing once.
-/

namespace FlinkSql.Name

open Text

/-- A name as tables and columns have it: in `[a-z][a-z0-9_]*`, with single underscores between other characters only, and no word of
the language. -/
structure IsIdentifier (s : String) : Prop where
  nonempty : s ≠ ""
  plain : ∀ c ∈ s.toList, isPlain c = true
  letter_first : ∃ c, s.toList.head? = some c ∧ c.isLower = true
  last : s.toList.getLast? ≠ some '_'
  single : ¬['_', '_'] <:+: s.toList
  unreserved : s ∉ reserved

/-- Plain characters with single underscores between them, none at the ends. -/
structure IsTidy (s : List Char) : Prop where
  plain : ∀ c ∈ s, isPlain c = true
  first : s.head? ≠ some '_'
  last : s.getLast? ≠ some '_'
  single : ¬['_', '_'] <:+: s

/-- The characters of an identifier are tidy. -/
theorem IsIdentifier.tidy {s : String} (h : IsIdentifier s) : IsTidy s.toList where
  plain := h.plain
  first := by
    obtain ⟨c, hc, hlower⟩ := h.letter_first
    rw [hc]
    rintro ⟨⟩
    exact absurd hlower (by decide)
  last := h.last
  single := h.single

/-! ## Collapsed underscores -/

/-- Collapsing keeps the first character. -/
theorem head?_collapsed (s : List Char) : (collapsed s).head? = s.head? := by
  induction s using collapsed.induct with
  | case1 => rfl
  | case2 c => rfl
  | case3 c d rest h ih =>
    rw [collapsed, if_pos h, ih, h.1, h.2]
    rfl
  | case4 c d rest h ih =>
    rw [collapsed, if_neg h]
    rfl

/-- Where underscores are collapsed, no two are left side by side. -/
theorem not_infix_collapsed (s : List Char) : ¬['_', '_'] <:+: collapsed s := by
  induction s using collapsed.induct with
  | case1 => decide
  | case2 c =>
    intro h
    exact absurd h.length_le (by simp [collapsed])
  | case3 c d rest h ih => rwa [collapsed, if_pos h]
  | case4 c d rest h ih =>
    rw [collapsed, if_neg h, List.infix_cons_iff, not_or]
    refine ⟨fun hhead => ?_, ih⟩
    -- the second underscore would be the first character behind the collapsed one
    obtain ⟨hc, hrest⟩ := List.cons_prefix_cons.mp hhead
    obtain ⟨t, ht⟩ := hrest
    have hhead := head?_collapsed (d :: rest)
    rw [← ht] at hhead
    exact h ⟨hc.symm, (Option.some.inj hhead).symm⟩

/-- Where no two stand side by side, there is nothing to collapse. -/
theorem collapsed_of_not_infix {s : List Char} (h : ¬['_', '_'] <:+: s) : collapsed s = s := by
  induction s using collapsed.induct with
  | case1 => rfl
  | case2 c => rfl
  | case3 c d rest hcd ih =>
    obtain ⟨rfl, rfl⟩ := hcd
    exact absurd (List.prefix_append ['_', '_'] rest).isInfix h
  | case4 c d rest hcd ih =>
    rw [List.infix_cons_iff, not_or] at h
    rw [collapsed, if_neg hcd, ih h.2]

/-! ## What is kept of a name -/

/-- What is kept of a name is tidy. -/
theorem tidy_kept (name : String) : IsTidy (kept name) where
  plain _ := isPlain_of_mem_kept
  first h := absurd (not_of_head?_trimWhere h) (by decide)
  last h := absurd (not_of_getLast?_trimWhere h) (by decide)
  single h := not_infix_collapsed _ (h.trans (isInfix_trimWhere _ _))

theorem isLower_iff {c : Char} : c.isLower = true ↔ 97 ≤ c.toNat ∧ c.toNat ≤ 122 := by
  show (decide ('a'.val ≤ c.val) && decide (c.val ≤ 'z'.val)) = true ↔ _
  rw [Bool.and_eq_true, decide_eq_true_eq, decide_eq_true_eq]
  exact and_congr UInt32.le_iff_toNat_le UInt32.le_iff_toNat_le

theorem isDigit_iff {c : Char} : c.isDigit = true ↔ 48 ≤ c.toNat ∧ c.toNat ≤ 57 := by
  show (decide ('0'.val ≤ c.val) && decide (c.val ≤ '9'.val)) = true ↔ _
  rw [Bool.and_eq_true, decide_eq_true_eq, decide_eq_true_eq]
  exact and_congr UInt32.le_iff_toNat_le UInt32.le_iff_toNat_le

/-- The code points of plain characters: small letters, digits and the underscore. -/
theorem toNat_of_isPlain {c : Char} (h : isPlain c = true) :
    97 ≤ c.toNat ∧ c.toNat ≤ 122 ∨ 48 ≤ c.toNat ∧ c.toNat ≤ 57 ∨ c.toNat = 95 := by
  rw [isPlain, Bool.or_eq_true, Bool.or_eq_true] at h
  rcases h with (hletter | hdigit) | hunderscore
  · exact Or.inl (isLower_iff.mp hletter)
  · exact Or.inr (Or.inl (isDigit_iff.mp hdigit))
  · rw [beq_iff_eq.mp hunderscore]
    exact Or.inr (Or.inr rfl)

/-- Only capital letters have another lower case. -/
theorem toLower_eq {c : Char} (h : ¬(65 ≤ c.toNat ∧ c.toNat ≤ 90)) : c.toLower = c := by
  have hcapital : ¬('A'.val ≤ c.val ∧ c.val ≤ 'Z'.val) := fun ⟨hA, hZ⟩ =>
    h ⟨UInt32.le_iff_toNat_le.mp hA, UInt32.le_iff_toNat_le.mp hZ⟩
  exact dif_neg hcapital

/-- A plain character is no capital letter. -/
theorem toLower_of_isPlain {c : Char} (h : isPlain c = true) : c.toLower = c := by
  have hcode := toNat_of_isPlain h
  exact toLower_eq (by omega)

/-- A plain character is in lower case already. -/
theorem lowerCase_of_isPlain {c : Char} (h : isPlain c = true) : lowerCase c = [c] := by
  have hne : ∀ d, isPlain d = false → c ≠ d := by
    rintro d hd rfl
    exact Bool.false_ne_true (hd.symm.trans h)
  rw [lowerCase, if_neg (hne _ (by decide)), if_neg (hne _ (by decide)), toLower_of_isPlain h]

/-- A plain character is no blank. -/
theorem not_isBlank_of_isPlain {c : Char} (h : isPlain c = true) : isBlank c = false := by
  have hcode := toNat_of_isPlain h
  simp only [isBlank, Bool.or_eq_false_iff, Bool.and_eq_false_iff, decide_eq_false_iff_not, beq_eq_false_iff_ne]
  omega

/-- A plain name is its own lower case. -/
theorem lowered_of_isPlain {s : String} (h : ∀ c ∈ s.toList, isPlain c = true) : lowered s = s.toList := by
  have hblank : ∀ c ∈ s.toList, isBlank c = false := fun c hc => not_isBlank_of_isPlain (h c hc)
  have hhyphen : ∀ c ∈ s.toList, (if c = '-' then '_' else c) = c := by
    intro c hc
    refine if_neg ?_
    rintro rfl
    exact absurd (h _ hc) (by decide)
  rw [lowered, trimWhere_eq_self (fun c hc => hblank c (List.mem_of_mem_head? hc)) fun c hc => hblank c (List.mem_of_getLast? hc),
    List.map_congr_left hhyphen, List.map_id', List.flatMap_congr fun c hc => lowerCase_of_isPlain (h c hc),
    List.flatMap_singleton']

/-- Nothing of a tidy name is lost. -/
theorem kept_of_tidy {s : String} (h : IsTidy s.toList) : kept s = s.toList := by
  have hmasked : ∀ c ∈ s.toList, masked c = c := fun c hc => if_pos (h.plain c hc)
  have hends : ∀ c, c ≠ '_' → (c == '_') = false := fun _ => beq_eq_false_iff_ne.mpr
  rw [kept, lowered_of_isPlain h.plain, List.map_congr_left hmasked, List.map_id', collapsed_of_not_infix h.single]
  refine trimWhere_eq_self (fun c hc => hends c ?_) fun c hc => hends c ?_
  · rintro rfl
    exact h.first hc
  · rintro rfl
    exact h.last hc

/-! ## Normalizing -/

/-- A name that does not stand for a number or a word of the language is an identifier if it is tidy. -/
theorem isIdentifier_of_tidy {base : List Char} (h : IsTidy base) (hne : base ≠ []) (hlead : needsLead base = false) :
    IsIdentifier (String.ofList base) := by
  rw [needsLead, Bool.or_eq_false_iff] at hlead
  obtain ⟨hdigit, hreserved⟩ := hlead
  obtain ⟨c, rest, rfl⟩ := List.exists_cons_of_ne_nil hne
  have hplain := h.plain c List.mem_cons_self
  have hunderscore : (c == '_') = false := beq_eq_false_iff_ne.mpr fun hc => h.first (congrArg some hc)
  have hletter : c.isLower = true := by
    have hdigit : c.isDigit = false := hdigit
    rwa [isPlain, hdigit, hunderscore, Bool.or_false, Bool.or_false] at hplain
  constructor
  case nonempty =>
    intro hempty
    have hnil := congrArg String.toList hempty
    rw [String.toList_ofList] at hnil
    cases hnil
  case unreserved =>
    intro hmem
    rw [List.contains_iff_mem.mpr hmem] at hreserved
    cases hreserved
  all_goals rw [String.toList_ofList]
  case plain => exact h.plain
  case letter_first => exact ⟨c, rfl, hletter⟩
  case last => exact h.last
  case single => exact h.single

/-- Behind `t_` every tidy name is an identifier. -/
theorem isIdentifier_of_lead {base : List Char} (h : IsTidy base) (hne : base ≠ []) :
    IsIdentifier (String.ofList ('t' :: '_' :: base)) := by
  refine isIdentifier_of_tidy ⟨?_, by simp, ?_, ?_⟩ (List.cons_ne_nil _ _) ?_
  · exact List.forall_mem_cons.mpr ⟨rfl, List.forall_mem_cons.mpr ⟨rfl, h.plain⟩⟩
  · obtain ⟨c, rest, rfl⟩ := List.exists_cons_of_ne_nil hne
    rw [List.getLast?_cons_cons, List.getLast?_cons_cons]
    exact h.last
  · rw [List.infix_cons_iff, List.infix_cons_iff]
    rintro (hhead | hhead | hlater)
    · exact absurd (List.cons_prefix_cons.mp hhead).1 (by decide)
    · obtain ⟨t, ht⟩ := (List.cons_prefix_cons.mp hhead).2
      exact h.first (by rw [← ht]; rfl)
    · exact h.single hlater
  · simp [needsLead, reserved, ← String.toList_inj]

/-- A tidy name is an identifier, behind `t_` where it needs that. -/
theorem isIdentifier_led {base : List Char} (h : IsTidy base) (hne : base ≠ []) :
    IsIdentifier (String.ofList (if needsLead base then 't' :: '_' :: base else base)) := by
  split_ifs with hlead
  · exact isIdentifier_of_lead h hne
  · exact isIdentifier_of_tidy h hne (Bool.eq_false_iff.mpr hlead)

/-- A normalized name is an identifier if the name that stands for nothing is. -/
theorem isIdentifier_normalize {fallback : String} (hfallback : IsIdentifier fallback) (name : String) :
    IsIdentifier (normalize fallback name) := by
  have hbase : ∀ kept : List Char, IsTidy kept → IsTidy (if kept.isEmpty then fallback.toList else kept) ∧
      (if kept.isEmpty then fallback.toList else kept) ≠ [] := by
    intro kept hkept
    split_ifs with hempty
    · exact ⟨hfallback.tidy, fun h => hfallback.nonempty (String.toList_inj.mp h)⟩
    · exact ⟨hkept, fun h => hempty (List.isEmpty_iff.mpr h)⟩
  obtain ⟨htidy, hne⟩ := hbase (kept name) (tidy_kept name)
  exact isIdentifier_led htidy hne

/-- An identifier is normalized already. -/
theorem IsIdentifier.normalize_eq {s : String} (h : IsIdentifier s) (fallback : String) : normalize fallback s = s := by
  obtain ⟨c, hc, hletter⟩ := h.letter_first
  have hkept := kept_of_tidy h.tidy
  have hnonempty : (kept s).isEmpty = false := by
    rw [hkept, List.isEmpty_eq_false_iff]
    intro hnil
    rw [hnil] at hc
    cases hc
  have hdigit : c.isDigit = false := by
    rw [isLower_iff] at hletter
    rw [Bool.eq_false_iff, ne_eq, isDigit_iff]
    omega
  have hlead : needsLead (kept s) = false := by
    rw [needsLead, hkept, hc, String.ofList_toList, Bool.or_eq_false_iff, List.contains_eq_mem, decide_eq_false_iff_not]
    exact ⟨hdigit, h.unreserved⟩
  rw [normalize, hnonempty]
  show String.ofList (if needsLead (kept s) then 't' :: '_' :: kept s else kept s) = s
  rw [hlead, if_neg Bool.false_ne_true, hkept, String.ofList_toList]

/-- Small letters are an identifier, if they are no word of the language. -/
theorem isIdentifier_of_letters {s : String} (hne : s ≠ "") (hletters : ∀ c ∈ s.toList, c.isLower = true) (hfree : s ∉ reserved) :
    IsIdentifier s := by
  have hunderscore : '_' ∉ s.toList := fun hmem => absurd (hletters _ hmem) (by decide)
  constructor
  case nonempty => exact hne
  case plain =>
    intro c hc
    rw [isPlain, hletters c hc, Bool.true_or, Bool.true_or]
  case letter_first =>
    obtain ⟨c, rest, hs⟩ := List.exists_cons_of_ne_nil fun hnil : s.toList = [] => hne (String.toList_inj.mp hnil)
    exact ⟨c, by rw [hs]; rfl, hletters c (hs ▸ List.mem_cons_self)⟩
  case last => exact fun hlast => hunderscore (List.mem_of_getLast? hlast)
  case single => exact fun hinside => hunderscore (hinside.subset List.mem_cons_self)
  case unreserved => exact hfree

/-- A normalized object name is an identifier. -/
theorem isIdentifier_object (name : String) : IsIdentifier (object name) :=
  isIdentifier_normalize (isIdentifier_of_letters (by decide) (List.all_eq_true.mp (by decide)) (by decide)) name

/-- A normalized column is an identifier. -/
theorem isIdentifier_column (name : String) : IsIdentifier (column name) :=
  isIdentifier_normalize (isIdentifier_of_letters (by decide) (List.all_eq_true.mp (by decide)) (by decide)) name

/-- Whatever text a name comes from, its normalized forms are identifiers, and normalizing them again, for a table or for a column,
changes nothing. The names that normalizing leaves as they are are the identifiers. -/
theorem normalized_names_stable (name : String) :
    (IsIdentifier (object name) ∧ IsIdentifier (column name)) ∧
    (object (object name) = object name ∧ object (column name) = column name ∧
      column (object name) = object name ∧ column (column name) = column name) ∧
    (object name = name ↔ IsIdentifier name) ∧ (column name = name ↔ IsIdentifier name) := by
  have hobject := isIdentifier_object name
  have hcolumn := isIdentifier_column name
  refine ⟨⟨hobject, hcolumn⟩, ⟨hobject.normalize_eq _, hcolumn.normalize_eq _, hobject.normalize_eq _, hcolumn.normalize_eq _⟩, ?_, ?_⟩
  · exact ⟨fun h => h ▸ hobject, fun h => h.normalize_eq _⟩
  · exact ⟨fun h => h ▸ hcolumn, fun h => h.normalize_eq _⟩

end FlinkSql.Name
