import FlinkSql.Proofs.Name.Identifier

/-!
# The words of a name

The words of a name are the longest runs of letters and digits in its lower case. Masking, collapsing and trimming leave the words
with single underscores between them; so a normalized name says what the words are, except that a `t_` in front may be a word
of the name or may have been put there.
-/

namespace FlinkSql.Name

open Text

/-- The characters of words. -/
def isWordChar (c : Char) : Bool := c.isLower || c.isDigit

/-- The longest runs of word characters in a text, from left to right. -/
def runs (s : List Char) : List (List Char) :=
  (s.splitOnP fun c => !isWordChar c).filter fun run => !run.isEmpty

/-- The words of a name. -/
def words (name : String) : List String := (runs (lowered name)).map String.ofList

/-- The words of a name with underscores between them, or the fallback if there are none. -/
def wordText (fallback name : String) : String :=
  if words name = [] then fallback else "_".intercalate (words name)

/-- Whether a text cannot stand as a name by itself: it begins with a digit, or is a word of the language. -/
def NeedsPrefix (text : String) : Prop := (∃ c ∈ text.toList.head?, c.isDigit = true) ∨ text ∈ reserved

instance (text : String) : Decidable (NeedsPrefix text) :=
  decidable_of_iff (text.toList.head?.any Char.isDigit = true ∨ text ∈ reserved) (or_congr_left (Option.any_eq_true _ _))

example : words "  2024-Orders.v2 " = ["2024", "orders", "v2"] := by decide +kernel

/-! ## Runs -/

/-- A text is one run, or has a first character that belongs to none. -/
theorem induction_runs {P : List Char → Prop} (last : ∀ run, (∀ c ∈ run, isWordChar c = true) → P run)
    (separated : ∀ run c s, (∀ d ∈ run, isWordChar d = true) → isWordChar c = false → P s → P (run ++ c :: s))
    (s : List Char) : P s := by
  have hbehind : ∀ run, (∀ c ∈ run, isWordChar c = true) → P (run ++ s) := by
    induction s with
    | nil =>
      intro run hrun
      rw [List.append_nil]
      exact last run hrun
    | cons c s ih =>
      intro run hrun
      cases hc : isWordChar c with
      | false => exact separated run c s hrun hc (ih [] fun _ hd => absurd hd List.not_mem_nil)
      | true =>
        rw [List.append_cons]
        exact ih (run ++ [c]) (List.forall_mem_append.mpr ⟨hrun, List.forall_mem_singleton.mpr hc⟩)
  exact hbehind [] fun _ hc => absurd hc List.not_mem_nil

/-- Runs are separated by every other character. -/
theorem runs_append_cons {c : Char} (hc : isWordChar c = false) (s t : List Char) : runs (s ++ c :: t) = runs s ++ runs t := by
  rw [runs, List.splitOnP_append_cons s t (by rw [hc]; rfl), List.filter_append]
  rfl

/-- Word characters in a row are one run, or none if there are none. -/
theorem runs_of_forall {run : List Char} (h : ∀ c ∈ run, isWordChar c = true) : runs run = if run = [] then [] else [run] := by
  rw [runs, List.splitOnP_eq_singleton fun c hc => by rw [h c hc]; rfl]
  cases run with
  | nil => rfl
  | cons c run => rfl

/-- A run is not empty, and consists of word characters. -/
theorem forall_mem_runs (s : List Char) : ∀ run ∈ runs s, run ≠ [] ∧ ∀ c ∈ run, isWordChar c = true := by
  have hone : ∀ run, (∀ c ∈ run, isWordChar c = true) → ∀ r ∈ runs run, r ≠ [] ∧ ∀ c ∈ r, isWordChar c = true := by
    intro run hrun r hr
    rw [runs_of_forall hrun] at hr
    split_ifs at hr with hempty
    · cases hr
    · rw [List.mem_singleton.mp hr]
      exact ⟨hempty, hrun⟩
  induction s using induction_runs with
  | last run hrun => exact hone run hrun
  | separated run c s hrun hc ih =>
    rw [runs_append_cons hc]
    exact List.forall_mem_append.mpr ⟨hone run hrun, ih⟩

/-- An underscore is no word character. -/
theorem beq_underscore_of_isWordChar {c : Char} (h : isWordChar c = true) : (c == '_') = false := by
  refine beq_eq_false_iff_ne.mpr ?_
  rintro rfl
  exact absurd h (by decide)

/-- There is no underscore in a run. -/
theorem underscore_notMem {run : List Char} (h : ∀ c ∈ run, isWordChar c = true) : '_' ∉ run :=
  fun hmem => absurd (h _ hmem) (by decide)

/-! ## Joining -/

/-- Words with underscores between them: the first one, and an underscore if others follow. -/
theorem intercalate_cons (w : List Char) (ws : List (List Char)) :
    ['_'].intercalate (w :: ws) = if ws = [] then w else w ++ '_' :: ['_'].intercalate ws := by
  cases ws with
  | nil => rw [if_pos rfl, List.intercalate_singleton]
  | cons v ws => rw [if_neg (List.cons_ne_nil _ _), List.intercalate_cons_cons, List.append_assoc, List.singleton_append]

/-- Nothing is joined only if there are no words. -/
theorem intercalate_eq_nil_iff {ws : List (List Char)} (h : ∀ w ∈ ws, w ≠ []) : ['_'].intercalate ws = [] ↔ ws = [] := by
  cases ws with
  | nil => exact iff_of_true rfl rfl
  | cons w ws =>
    refine iff_of_false ?_ (List.cons_ne_nil _ _)
    have hw := h w List.mem_cons_self
    rw [intercalate_cons]
    split_ifs
    · exact hw
    · exact List.append_ne_nil_of_left_ne_nil hw _

/-! ## What is kept of a name -/

/-- A word character is masked by itself. -/
theorem masked_of_isWordChar {c : Char} (h : isWordChar c = true) : masked c = c := by
  rw [isWordChar] at h
  rw [masked, isPlain, h, Bool.true_or, if_pos rfl]

/-- Any other character is masked by an underscore. -/
theorem masked_of_not_isWordChar {c : Char} (h : isWordChar c = false) : masked c = '_' := by
  rw [isWordChar] at h
  rw [masked, isPlain, h, Bool.false_or]
  split_ifs with hc
  · exact beq_iff_eq.mp hc
  · rfl

/-- A character other than the underscore is kept. -/
theorem collapsed_cons {c : Char} (hc : c ≠ '_') (s : List Char) : collapsed (c :: s) = c :: collapsed s := by
  cases s with
  | nil => rfl
  | cons d s => rw [collapsed, if_neg fun h => hc h.1]

/-- An underscore swallows those behind it. -/
theorem collapsed_cons_underscore (s : List Char) : collapsed ('_' :: s) = '_' :: (collapsed s).dropWhile (· == '_') := by
  induction s with
  | nil => rfl
  | cons c s ih =>
    by_cases hc : c = '_'
    · subst hc
      rw [collapsed, if_pos ⟨rfl, rfl⟩, ih, List.dropWhile_cons_of_pos rfl, List.dropWhile_idempotent]
    · rw [collapsed, if_neg fun h => hc h.2, collapsed_cons hc, List.dropWhile_cons_of_neg (by simpa using hc)]

/-- A run without underscores is kept. -/
theorem collapsed_append {run : List Char} (h : '_' ∉ run) (s : List Char) : collapsed (run ++ s) = run ++ collapsed s := by
  induction run with
  | nil => rfl
  | cons c run ih =>
    obtain ⟨hc, hrest⟩ := not_or.mp (List.mem_cons.not.mp h)
    rw [List.cons_append, collapsed_cons (Ne.symm hc), ih hrest, List.cons_append]

theorem map_masked_of_forall {run : List Char} (h : ∀ c ∈ run, isWordChar c = true) : run.map masked = run := by
  rw [List.map_congr_left fun c hc => masked_of_isWordChar (h c hc), List.map_id']

theorem collapsed_of_forall {run : List Char} (h : ∀ c ∈ run, isWordChar c = true) : collapsed run = run := by
  have happend := collapsed_append (underscore_notMem h) []
  rwa [List.append_nil, collapsed, List.append_nil] at happend

/-- A run is not trimmed. -/
theorem trimWhere_of_forall {run : List Char} (h : ∀ c ∈ run, isWordChar c = true) : trimWhere (· == '_') run = run :=
  trimWhere_eq_self (fun c hc => beq_underscore_of_isWordChar (h c (List.mem_of_mem_head? hc)))
    fun c hc => beq_underscore_of_isWordChar (h c (List.mem_of_getLast? hc))

/-- A run in front of a separator stays. If words are left behind the separator, they come next; else the separator goes too. -/
theorem trimWhere_append_cons {run rest : List Char} {ws : List (List Char)} (hne : run ≠ [])
    (hrun : ∀ c ∈ run, isWordChar c = true) (hws : ∀ w ∈ ws, w ≠ [])
    (hrest : dropEndWhile (· == '_') rest = ['_'].intercalate ws) :
    trimWhere (· == '_') (run ++ '_' :: rest) = ['_'].intercalate (run :: ws) := by
  have hfirst : ∀ c ∈ (run ++ '_' :: rest).head?, (c == '_') = false := by
    intro c hc
    rw [List.head?_append_of_ne_nil _ hne] at hc
    exact beq_underscore_of_isWordChar (hrun c (List.mem_of_mem_head? hc))
  have hlast : dropEndWhile (· == '_') run = run :=
    dropEndWhile_eq_self fun c hc => beq_underscore_of_isWordChar (hrun c (List.mem_of_getLast? hc))
  have hbehind : dropEndWhile (· == '_') ('_' :: rest) = if ws = [] then [] else '_' :: ['_'].intercalate ws := by
    rw [dropEndWhile_cons_of_pos rfl, hrest, if_congr (intercalate_eq_nil_iff hws) rfl rfl]
  rw [trimWhere, dropWhile_eq_self hfirst, dropEndWhile_append, hlast, hbehind, intercalate_cons]
  by_cases hempty : ws = []
  · rw [if_pos hempty, if_pos hempty, if_pos rfl]
  · rw [if_neg hempty, if_neg hempty, if_neg (List.cons_ne_nil _ _)]

/-- A text that is masked, collapsed and trimmed is its runs, joined by underscores. -/
theorem trimmed_eq (s : List Char) : trimWhere (· == '_') (collapsed (s.map masked)) = ['_'].intercalate (runs s) := by
  induction s using induction_runs with
  | last run hrun =>
    rw [map_masked_of_forall hrun, collapsed_of_forall hrun, trimWhere_of_forall hrun, runs_of_forall hrun]
    split_ifs with hempty
    · exact hempty
    · exact List.intercalate_singleton.symm
  | separated run c s hrun hc ih =>
    rw [List.map_append, List.map_cons, map_masked_of_forall hrun, masked_of_not_isWordChar hc,
      collapsed_append (underscore_notMem hrun), collapsed_cons_underscore, runs_append_cons hc, runs_of_forall hrun]
    split_ifs with hempty
    · rw [hempty, List.nil_append, List.nil_append, trimWhere, List.dropWhile_cons_of_pos rfl, List.dropWhile_idempotent]
      exact ih
    · exact trimWhere_append_cons hempty hrun (fun r hr => (forall_mem_runs s r hr).1) ih

/-- What is kept of a name is its words, joined by underscores. -/
theorem kept_eq (name : String) : kept name = ['_'].intercalate (runs (lowered name)) := trimmed_eq _

/-- What is kept of a name are its words with underscores between them. -/
theorem ofList_kept (name : String) : String.ofList (kept name) = "_".intercalate (words name) := by
  refine String.toList_inj.mp ?_
  rw [String.toList_ofList, String.toList_intercalate, kept_eq, words, List.map_map]
  have hid : String.toList ∘ String.ofList = id := funext fun _ => String.toList_ofList
  rw [hid, List.map_id]
  rfl

/-- Nothing is kept of a name without words, and of no other name. -/
theorem kept_isEmpty_iff {name : String} : (kept name).isEmpty = true ↔ words name = [] := by
  rw [List.isEmpty_iff, kept_eq, intercalate_eq_nil_iff fun r hr => (forall_mem_runs _ r hr).1, words, List.map_eq_nil_iff]

/-! ## Normalizing -/

/-- The check for a letter in front finds the names that need the prefix. -/
theorem needsLead_iff {base : List Char} : needsLead base = true ↔ NeedsPrefix (String.ofList base) := by
  rw [needsLead, Bool.or_eq_true, List.contains_iff_mem, NeedsPrefix, String.toList_ofList, Option.any_eq_true]
  exact Iff.rfl

/-- A normalized name is its words with underscores between them, or the fallback, behind `t_` where that is needed. -/
theorem normalize_eq (fallback name : String) :
    normalize fallback name =
      if NeedsPrefix (wordText fallback name) then "t_" ++ wordText fallback name else wordText fallback name := by
  have hbase : String.ofList (if (kept name).isEmpty then fallback.toList else kept name) = wordText fallback name := by
    rw [wordText]
    by_cases h : words name = []
    · rw [if_pos (kept_isEmpty_iff.mpr h), if_pos h, String.ofList_toList]
    · rw [if_neg (mt kept_isEmpty_iff.mp h), if_neg h, ofList_kept]
  have hled : ∀ base : List Char, String.ofList (if needsLead base then 't' :: '_' :: base else base) =
      if NeedsPrefix (String.ofList base) then "t_" ++ String.ofList base else String.ofList base := by
    intro base
    by_cases h : needsLead base = true
    · rw [if_pos h, if_pos (needsLead_iff.mp h)]
      exact String.toList_inj.mp (by simp)
    · rw [if_neg h, if_neg (mt needsLead_iff.mpr h)]
  rw [← hbase, ← hled, normalize]

/-! ## Names that are normalized alike -/

/-- Words without underscores are read back from the text that joins them. -/
theorem eq_of_intercalate {us vs : List String} (hu : ∀ u ∈ us, '_' ∉ u.toList) (hv : ∀ v ∈ vs, '_' ∉ v.toList)
    (hus : us ≠ []) (hvs : vs ≠ []) (h : "_".intercalate us = "_".intercalate vs) : us = vs := by
  have hread : ∀ ws : List String, (∀ w ∈ ws, '_' ∉ w.toList) → ws ≠ [] →
      ("_".intercalate ws).toList.splitOn '_' = ws.map String.toList := by
    intro ws hws hne
    rw [String.toList_intercalate]
    exact List.splitOn_intercalate '_' (List.forall_mem_map.mpr hws) (mt List.map_eq_nil_iff.mp hne)
  refine List.map_injective_iff.mpr (fun _ _ => String.toList_inj.mp) ?_
  rw [← hread us hu hus, ← hread vs hv hvs, h]

/-- There is no underscore in a word of a name. -/
theorem underscore_notMem_words {name word : String} (h : word ∈ words name) : '_' ∉ word.toList := by
  obtain ⟨run, hrun, rfl⟩ := List.mem_map.mp h
  rw [String.toList_ofList]
  exact underscore_notMem (forall_mem_runs _ run hrun).2

/-- Where there are words, they are read back from the text. -/
theorem words_eq_of_wordText {fallback a b : String} (ha : words a ≠ []) (hb : words b ≠ [])
    (h : wordText fallback a = wordText fallback b) : words a = words b := by
  rw [wordText, if_neg ha, wordText, if_neg hb] at h
  exact eq_of_intercalate (fun _ => underscore_notMem_words) (fun _ => underscore_notMem_words) ha hb h

/-- The `t_` that is put in front reads as a word more. -/
theorem lead_append_wordText {fallback name : String} (h : words name ≠ []) :
    "t_" ++ wordText fallback name = "_".intercalate ("t" :: words name) := by
  rw [wordText, if_neg h]
  obtain ⟨word, rest, hwords⟩ := List.exists_cons_of_ne_nil h
  rw [hwords, String.intercalate_cons_cons]
  rfl

/-- With the prefix, a name begins with a letter. -/
theorem not_needsPrefix_lead (text : String) : ¬NeedsPrefix ("t_" ++ text) := by
  rintro (⟨c, hc, hdigit⟩ | hreserved)
  · rw [String.toList_append] at hc
    cases hc
    exact absurd hdigit (by decide)
  · simp [reserved, ← String.toList_inj] at hreserved

/-- The word `t` of `b` is the prefix that `a` gets. -/
def TakesPrefixOf (fallback a b : String) : Prop :=
  NeedsPrefix (wordText fallback a) ∧ ¬NeedsPrefix (wordText fallback b) ∧ words b = "t" :: words a

/-- A name that takes the prefix is normalized like the name that is spelled with it. -/
theorem TakesPrefixOf.alike {fallback a b : String} (h : TakesPrefixOf fallback a b) (ha : words a ≠ []) :
    normalize fallback a = normalize fallback b := by
  obtain ⟨hneeds, hfree, hwords⟩ := h
  have hb : words b ≠ [] := hwords ▸ List.cons_ne_nil _ _
  rw [normalize_eq, if_pos hneeds, normalize_eq, if_neg hfree, lead_append_wordText ha, wordText, if_neg hb, hwords]

/-- A name that gets the prefix and one that does not: the words of the second are those of the first behind a `t`. -/
theorem takesPrefixOf {fallback a b : String} (ha : words a ≠ []) (hb : words b ≠ []) (hneeds : NeedsPrefix (wordText fallback a))
    (hfree : ¬NeedsPrefix (wordText fallback b)) (h : normalize fallback a = normalize fallback b) : TakesPrefixOf fallback a b := by
  rw [normalize_eq, if_pos hneeds, normalize_eq, if_neg hfree, lead_append_wordText ha, wordText, if_neg hb] at h
  have ht : '_' ∉ "t".toList := by decide
  have hwords := eq_of_intercalate (List.forall_mem_cons.mpr ⟨ht, fun _ => underscore_notMem_words⟩) (fun _ => underscore_notMem_words)
    (List.cons_ne_nil _ _) hb h
  exact ⟨hneeds, hfree, hwords.symm⟩

/-- A normalized name is the words of the name with underscores between them, or the fallback if there are none; `t_` stands in front
exactly if this begins with a digit or is a word of the language. So names with the same words are normalized alike. Names with
different words, if they have any, are normalized alike only if one of them gets the prefix and the other has a word `t` in its
place. -/
theorem normalize_is_word_form (fallback a b : String) :
    (normalize fallback a = if NeedsPrefix (wordText fallback a) then "t_" ++ wordText fallback a else wordText fallback a) ∧
    (words a = words b → normalize fallback a = normalize fallback b) ∧
    (words a ≠ [] → words b ≠ [] → (normalize fallback a = normalize fallback b ↔
      words a = words b ∨ TakesPrefixOf fallback a b ∨ TakesPrefixOf fallback b a)) := by
  have hsame : words a = words b → normalize fallback a = normalize fallback b := by
    intro h
    rw [normalize_eq, normalize_eq, wordText, wordText, h]
  refine ⟨normalize_eq fallback a, hsame, fun ha hb => ⟨fun h => ?_, ?_⟩⟩
  · by_cases hneedsa : NeedsPrefix (wordText fallback a)
    · by_cases hneedsb : NeedsPrefix (wordText fallback b)
      · rw [normalize_eq, if_pos hneedsa, normalize_eq, if_pos hneedsb, String.append_right_inj] at h
        exact Or.inl (words_eq_of_wordText ha hb h)
      · exact Or.inr (Or.inl (takesPrefixOf ha hb hneedsa hneedsb h))
    · by_cases hneedsb : NeedsPrefix (wordText fallback b)
      · exact Or.inr (Or.inr (takesPrefixOf hb ha hneedsb hneedsa h.symm))
      · rw [normalize_eq, if_neg hneedsa, normalize_eq, if_neg hneedsb] at h
        exact Or.inl (words_eq_of_wordText ha hb h)
  · rintro (h | h | h)
    · exact hsame h
    · exact h.alike ha
    · exact (h.alike hb).symm

/-- The words `values` and `t`, `values` give one name, because the first gets the prefix. -/
theorem values_takes_prefix :
    words "VALUES" ≠ [] ∧ words " t-values!" ≠ [] ∧ words "VALUES" ≠ words " t-values!" ∧
      normalize "column" "VALUES" = normalize "column" " t-values!" := by
  have hvalues : words "VALUES" = ["values"] := by decide +kernel
  have htvalues : words " t-values!" = ["t", "values"] := by decide +kernel
  have hneeds : NeedsPrefix (wordText "column" "VALUES") := by
    rw [wordText, hvalues]
    exact Or.inr (by decide)
  have hfree : ¬NeedsPrefix (wordText "column" " t-values!") := by
    rw [wordText, htvalues]
    exact not_needsPrefix_lead "values"
  refine ⟨by simp [hvalues], by simp [htvalues], by simp [hvalues, htvalues], ?_⟩
  refine ((normalize_is_word_form "column" "VALUES" " t-values!").2.2 (by simp [hvalues]) (by simp [htvalues])).mpr ?_
  exact Or.inr (Or.inl ⟨hneeds, hfree, by rw [hvalues, htvalues]⟩)

end FlinkSql.Name
