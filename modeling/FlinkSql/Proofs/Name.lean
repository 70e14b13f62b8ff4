import FlinkSql.Name
import FlinkSql.Proofs.Text.Reading

/-!
# Normalized names

A normalized name holds plain characters only, whatever text it comes from. So it is written between backticks as it is, and what
is written determines it.
-/

namespace FlinkSql.Name

open Text

/-- Trimming adds no characters. -/
theorem trimWhere_subset (p : Char → Bool) (s : List Char) : trimWhere p s ⊆ s := by
  intro c hc
  rw [trimWhere, dropEndWhile, List.mem_reverse] at hc
  have hdropped := (List.dropWhile_suffix p).subset hc
  rw [List.mem_reverse] at hdropped
  exact (List.dropWhile_suffix p).subset hdropped

/-- Collapsing underscores adds no characters. -/
theorem collapsed_subset (s : List Char) : collapsed s ⊆ s := by
  induction s using collapsed.induct with
  | case1 => exact List.Subset.refl _
  | case2 c => exact List.Subset.refl _
  | case3 c d rest h ih =>
    rw [collapsed, if_pos h]
    exact List.subset_cons_of_subset c ih
  | case4 c d rest h ih =>
    rw [collapsed, if_neg h]
    exact List.cons_subset_cons c ih

/-- A masked character is plain. -/
theorem isPlain_masked (c : Char) : isPlain (masked c) = true := by
  unfold masked
  split
  · assumption
  · rfl

/-- What a name keeps is plain. -/
theorem isPlain_of_mem_kept {name : String} {c : Char} (h : c ∈ kept name) : isPlain c = true := by
  have hmasked := collapsed_subset _ (trimWhere_subset _ _ h)
  obtain ⟨d, -, rfl⟩ := List.mem_map.mp hmasked
  exact isPlain_masked d

/-- A normalized name is plain if the name that stands for nothing is. -/
theorem isPlain_of_mem_normalize {fallback name : String} (hfallback : ∀ c ∈ fallback.toList, isPlain c = true) {c : Char}
    (h : c ∈ (normalize fallback name).toList) : isPlain c = true := by
  have hled : ∀ base : List Char, (∀ d ∈ base, isPlain d = true) →
      ∀ d ∈ (if needsLead base then 't' :: '_' :: base else base), isPlain d = true := by
    intro base hbase
    split
    · exact List.forall_mem_cons.mpr ⟨rfl, List.forall_mem_cons.mpr ⟨rfl, hbase⟩⟩
    · exact hbase
  rw [normalize, String.toList_ofList] at h
  refine hled _ ?_ c h
  split
  · exact hfallback
  · exact fun d => isPlain_of_mem_kept

/-- The characters of a normalized column are plain. -/
theorem isPlain_of_mem_column {name : String} {c : Char} (h : c ∈ (column name).toList) : isPlain c = true := by
  have hfallback : ∀ c ∈ "column".toList, isPlain c = true := List.all_eq_true.mp (by decide)
  exact isPlain_of_mem_normalize hfallback h

/-- The characters of a normalized object name are plain, its prefix included. -/
theorem isPlain_of_mem_object {name : String} {c : Char} (h : c ∈ (object name).toList) : isPlain c = true := by
  have hfallback : ∀ c ∈ "object".toList, isPlain c = true := List.all_eq_true.mp (by decide)
  exact isPlain_of_mem_normalize hfallback h

/-- A plain name needs no doubled backticks. -/
theorem toList_quotedName {name : String} (h : ∀ c ∈ name.toList, isPlain c = true) :
    (quotedName name).toList = backtick :: name.toList ++ [backtick] := by
  have hfree : backtick ∉ name.toList := fun hmem => absurd (h _ hmem) (by decide)
  rw [quotedName, quoted, String.toList_ofList, doubled_of_not_mem hfree]

/-- A normalized column has no backtick to double, so it stands between backticks as it is. -/
theorem toList_quotedColumn (name : String) :
    (quotedColumn name).toList = backtick :: (column name).toList ++ [backtick] :=
  toList_quotedName fun _ => isPlain_of_mem_column

theorem toList_quotedObject (name : String) :
    (quotedObject name).toList = backtick :: (object name).toList ++ [backtick] :=
  toList_quotedName fun _ => isPlain_of_mem_object

/-- Two columns are written alike if their normalized names are the same. -/
theorem quotedColumn_eq_iff {name other : String} : quotedColumn name = quotedColumn other ↔ column name = column other := by
  constructor
  · intro h
    have htexts := congrArg String.toList h
    rw [toList_quotedColumn, toList_quotedColumn] at htexts
    exact String.toList_inj.mp (List.cons.inj (List.append_cancel_right htexts)).2
  · intro h
    simp only [quotedColumn, h]

end FlinkSql.Name
