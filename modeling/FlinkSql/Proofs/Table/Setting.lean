import FlinkSql.Proofs.FirstOccurrence
import FlinkSql.Table.Properties

/-!
# Setting properties

What it takes to set a property, and what it leaves. A layer clashes with what a key has so far if it may not give the key another
value (`Layer.Clashes`). It is refused then; otherwise the key has the new value, a new key stands at the end, and no other key changes
(`WithClause.Sets`). A layer is applied property by property, so it is refused if one of its properties clashes with what was there
before it.
-/

namespace FlinkSql

/-- A layer may not set a key to a value over what the key has so far. Reserved keys neither change nor appear; another key changes only
if the layer may override. -/
def Layer.Clashes (layer : Layer) (soFar : Option String) (key value : String) : Prop :=
  match soFar with
  | some old => old ≠ value ∧ (WithClause.isReserved key = true ∨ layer.mayOverride = false)
  | none => WithClause.isReserved key = true

instance (layer : Layer) (soFar : Option String) (key value : String) : Decidable (layer.Clashes soFar key value) :=
  match soFar with
  | some old => inferInstanceAs (Decidable (old ≠ value ∧ (WithClause.isReserved key = true ∨ layer.mayOverride = false)))
  | none => inferInstanceAs (Decidable (WithClause.isReserved key = true))

namespace WithClause

variable {w next : WithClause} {layer : Layer} {key value : String}

/-- The keys, in the order in which they were first set. -/
def keys (w : WithClause) : List String := w.entries.map (·.key)

/-- The keys with their values. -/
def pairs (w : WithClause) : List (String × String) := w.entries.map fun p => (p.key, p.value)

/-- The keys of the pairs are the keys. -/
theorem map_fst_pairs (w : WithClause) : w.pairs.map (·.1) = w.keys := by
  rw [pairs, List.map_map]
  rfl

/-! ## Reading a clause -/

/-- A key has no value exactly if it is not among the keys. -/
theorem get?_eq_none_iff : w.get? key = none ↔ key ∉ w.keys := by
  rw [get?, Option.map_eq_none_iff, property?, List.find?_eq_none, keys, List.mem_map]
  constructor
  · rintro h ⟨p, hp, rfl⟩
    exact h p hp BEq.rfl
  · intro h p hp hkey
    exact h ⟨p, hp, beq_iff_eq.mp hkey⟩

/-- Of the properties with one key the first is read, and the others are not looked at. -/
theorem get?_cons (p : Property) (rest : List Property) (key : String) :
    get? ⟨p :: rest⟩ key = if p.key = key then some p.value else get? ⟨rest⟩ key := by
  rw [get?, property?, List.find?_cons]
  by_cases h : p.key = key
  · rw [if_pos h, beq_iff_eq.mpr h]
    rfl
  · rw [if_neg h, beq_eq_false_iff_ne.mpr h]
    rfl

/-- A value is looked up in the front first. -/
theorem get?_append (entries more : List Property) (key : String) :
    get? ⟨entries ++ more⟩ key = (get? ⟨entries⟩ key).or (get? ⟨more⟩ key) := by
  rw [get?, property?, List.find?_append, Option.map_or]
  rfl

theorem get?_fixed (properties : List (String × String)) (key : String) : (fixed properties).get? key = properties.lookup key := by
  induction properties with
  | nil => rfl
  | cons p rest ih =>
    have hcons : (fixed (p :: rest)).get? key = if p.1 = key then some p.2 else (fixed rest).get? key := get?_cons _ _ _
    rw [hcons, ih, List.lookup_cons]
    by_cases h : p.1 = key
    · rw [if_pos h, beq_iff_eq.mpr h.symm]
    · rw [if_neg h, beq_eq_false_iff_ne.mpr (Ne.symm h)]

theorem keys_fixed (properties : List (String × String)) : (fixed properties).keys = properties.map (·.1) := by
  rw [keys, fixed, List.map_map]
  rfl

/-- Nothing is found for a key that is not listed, and only then. -/
theorem lookup_eq_none_iff {properties : List (String × String)} : properties.lookup key = none ↔ key ∉ properties.map (·.1) := by
  rw [← get?_fixed, get?_eq_none_iff, keys_fixed]

/-- Where no key is repeated, each value is read under its key. -/
theorem get?_of_mem_pairs (hkeys : w.keys.Nodup) {p : String × String} (hp : p ∈ w.pairs) : w.get? p.1 = some p.2 := by
  obtain ⟨entries⟩ := w
  induction entries with
  | nil => exact absurd hp List.not_mem_nil
  | cons first rest ih =>
    obtain ⟨hfirst, hrest⟩ : first.key ∉ keys ⟨rest⟩ ∧ (keys ⟨rest⟩).Nodup := List.nodup_cons.mp hkeys
    rw [get?_cons]
    rcases List.mem_cons.mp hp with rfl | hp
    · exact if_pos rfl
    · have hkey : p.1 ∈ keys ⟨rest⟩ := map_fst_pairs ⟨rest⟩ ▸ List.mem_map_of_mem hp
      rw [if_neg fun h : first.key = p.1 => hfirst (h ▸ hkey)]
      exact ih hrest hp

/-- Looking a key up among the pairs gives its value. -/
theorem lookup_pairs (w : WithClause) (key : String) : w.pairs.lookup key = w.get? key := by
  obtain ⟨entries⟩ := w
  induction entries with
  | nil => rfl
  | cons p rest ih =>
    rw [get?_cons, ← ih, pairs, List.map_cons, List.lookup_cons, ← pairs]
    by_cases h : p.key = key
    · rw [if_pos h, beq_iff_eq.mpr h.symm]
    · rw [if_neg h, beq_eq_false_iff_ne.mpr (Ne.symm h)]

/-- A key that has a value is paired with it. -/
theorem mem_pairs_of_get? (h : w.get? key = some value) : (key, value) ∈ w.pairs := by
  obtain ⟨p, hp, rfl⟩ := Option.map_eq_some_iff.mp h
  rw [property?] at hp
  have hkey := List.find?_some hp
  rw [← beq_iff_eq.mp hkey]
  exact List.mem_map_of_mem (List.mem_of_find?_eq_some hp)

theorem mem_keys_of_get? (h : w.get? key = some value) : key ∈ w.keys := by
  have hpair : key ∈ w.pairs.map (·.1) := List.mem_map_of_mem (mem_pairs_of_get? h)
  rwa [map_fst_pairs] at hpair

/-! ## One property -/

/-- `next` is `w` with one property set: the key has the value, a new key stands at the end, and no other key changes. -/
structure Sets (w : WithClause) (key value : String) (next : WithClause) : Prop where
  keys : next.keys = if key ∈ w.keys then w.keys else w.keys ++ [key]
  get? : ∀ other, next.get? other = if other = key then some value else w.get? other

/-- A key that is set is not repeated. -/
theorem Sets.nodup (h : w.Sets key value next) (hkeys : w.keys.Nodup) : next.keys.Nodup := by
  rw [h.keys]
  split
  · exact hkeys
  · rename_i hnew
    rw [← List.concat_eq_append]
    exact hkeys.concat hnew

/-- Replacing a value changes no key. -/
theorem keys_replaceFirst (p : Property) (entries : List Property) :
    keys ⟨replaceFirst p entries⟩ = keys ⟨entries⟩ := by
  induction entries with
  | nil => rfl
  | cons q rest ih =>
    rw [replaceFirst]
    split
    · rename_i hkey
      exact congrArg (· :: keys ⟨rest⟩) hkey.symm
    · exact congrArg (q.key :: ·) ih

/-- A value that is replaced is the new one; all others stay. -/
theorem get?_replaceFirst {p : Property} {entries : List Property} (h : p.key ∈ keys ⟨entries⟩) (other : String) :
    get? ⟨replaceFirst p entries⟩ other = if other = p.key then some p.value else get? ⟨entries⟩ other := by
  induction entries with
  | nil => exact absurd h List.not_mem_nil
  | cons q rest ih =>
    rw [replaceFirst, get?_cons]
    by_cases hkey : q.key = p.key
    · rw [if_pos hkey, get?_cons, hkey]
      by_cases hother : p.key = other
      · rw [if_pos hother, if_pos hother.symm]
      · rw [if_neg hother, if_neg hother, if_neg (Ne.symm hother)]
    · rw [if_neg hkey, get?_cons]
      have hrest : p.key ∈ keys ⟨rest⟩ := (List.mem_cons.mp h).resolve_left (Ne.symm hkey)
      by_cases hother : q.key = other
      · rw [if_pos hother, if_pos hother, if_neg fun h => hkey (hother.trans h)]
      · rw [if_neg hother, if_neg hother, ih hrest]

/-- A key that is there is set in its place. -/
theorem sets_replaceFirst {p : Property} (h : p.key ∈ w.keys) : w.Sets p.key p.value ⟨replaceFirst p w.entries⟩ where
  keys := by rw [keys_replaceFirst, if_pos h]
  get? := get?_replaceFirst h

/-- A key that is not there is set at the end. -/
theorem sets_append {p : Property} (h : p.key ∉ w.keys) : w.Sets p.key p.value ⟨w.entries ++ [p]⟩ where
  keys := by
    rw [if_neg h]
    exact List.map_append
  get? other := by
    rw [get?_append, get?_cons]
    by_cases hother : other = p.key
    · rw [if_pos hother, if_pos hother.symm, hother, get?_eq_none_iff.mpr h]
      rfl
    · rw [if_neg hother, if_neg (Ne.symm hother)]
      exact Option.or_none

/-- A key that has the value already is left alone. -/
theorem sets_self (h : w.get? key = some value) : w.Sets key value w where
  keys := by rw [if_pos (mem_keys_of_get? h)]
  get? other := by
    split
    · rename_i hother
      rw [hother, h]
    · rfl

/-- A property that clashes is refused. -/
theorem set_of_clash (h : layer.Clashes (w.get? key) key value) :
    ∃ cause, set layer w key value = .error (.configuration cause) := by
  unfold set
  rw [get?] at h
  cases hold : w.property? key with
  | some old =>
    rw [hold] at h
    obtain ⟨hvalue, hfixed⟩ := h
    simp only [if_neg hvalue]
    by_cases hreserved : isReserved key = true
    · exact ⟨_, if_pos hreserved⟩
    · have hoverride : ¬layer.mayOverride = true := Bool.not_eq_true _ ▸ hfixed.resolve_left hreserved
      simp only [if_neg hreserved, if_neg hoverride]
      exact ⟨_, rfl⟩
  | none =>
    rw [hold] at h
    exact ⟨_, if_pos h⟩

/-- A property that does not clash is set. -/
theorem set_of_no_clash (h : ¬layer.Clashes (w.get? key) key value) :
    ∃ next, set layer w key value = .ok next ∧ w.Sets key value next := by
  unfold set
  have hread : w.get? key = (w.property? key).map (·.value) := rfl
  rw [hread] at h
  cases hold : w.property? key with
  | some old =>
    rw [hold] at h hread
    by_cases hvalue : old.value = value
    · exact ⟨w, if_pos hvalue, sets_self (hvalue ▸ hread)⟩
    · have hfree : ¬isReserved key = true ∧ ¬layer.mayOverride = false := not_or.mp fun hfixed => h ⟨hvalue, hfixed⟩
      simp only [if_neg hvalue, if_neg hfree.1, if_pos (Bool.not_eq_false _ ▸ hfree.2)]
      exact ⟨_, rfl, sets_replaceFirst (p := ⟨key, value, layer.name⟩) (mem_keys_of_get? hread)⟩
  | none =>
    rw [hold] at h hread
    exact ⟨_, if_neg h, sets_append (p := ⟨key, value, layer.name⟩) (get?_eq_none_iff.mp hread)⟩

/-- A property that is set did not clash. -/
theorem sets_of_set (h : set layer w key value = .ok next) :
    ¬layer.Clashes (w.get? key) key value ∧ w.Sets key value next := by
  by_cases hclash : layer.Clashes (w.get? key) key value
  · obtain ⟨cause, hcause⟩ := set_of_clash hclash
    cases h.symm.trans hcause
  · obtain ⟨_, hset, hsets⟩ := set_of_no_clash hclash
    cases h.symm.trans hset
    exact ⟨hclash, hsets⟩

/-! ## One layer -/

/-- `next` is `w` with properties set one after the other: keys that are new stand behind the others in the order of the properties, and
a key that is among them has the value that they give it. -/
structure SetsAll (w : WithClause) (properties : List (String × String)) (next : WithClause) : Prop where
  keys : next.keys = (w.keys ++ properties.map (·.1)).eraseDups
  get? : ∀ key, next.get? key = (properties.lookup key).or (w.get? key)

/-- Without settings, nothing changes. -/
theorem SetsAll.refl (hkeys : w.keys.Nodup) : w.SetsAll [] w where
  keys := by rw [List.map_nil, List.append_nil, eraseDups_of_nodup hkeys]
  get? _ := Option.none_or.symm

/-- What is read behind a property and others whose keys are different. -/
theorem Sets.lookup_or (h : w.Sets key value next) {rest : List (String × String)} (hkey : key ∉ rest.map (·.1)) (other : String) :
    (rest.lookup other).or (next.get? other) = (((key, value) :: rest).lookup other).or (w.get? other) := by
  rw [h.get?, List.lookup_cons]
  by_cases hother : other = key
  · rw [if_pos hother, beq_iff_eq.mpr hother, hother, lookup_eq_none_iff.mpr hkey]
    rfl
  · rw [if_neg hother, beq_eq_false_iff_ne.mpr hother]

/-- A property before others whose keys are different. -/
theorem Sets.cons {rest : List (String × String)} {last : WithClause} (h : w.Sets key value next) (hrest : next.SetsAll rest last)
    (hkeys : w.keys.Nodup) (hkey : key ∉ rest.map (·.1)) : w.SetsAll ((key, value) :: rest) last where
  keys := by
    have hnext : next.keys = (w.keys ++ [key]).eraseDups := by rw [h.keys, eraseDups_concat, eraseDups_of_nodup hkeys]
    rw [hrest.keys, hnext, eraseDups_append_of_eraseDups, List.append_assoc]
    rfl
  get? other := by
    rw [hrest.get?]
    exact h.lookup_or hkey other

/-- A property that is set changes nothing for properties with other keys. -/
theorem Sets.clashes_iff (h : w.Sets key value next) {p : String × String} (hp : p.1 ≠ key) :
    layer.Clashes (next.get? p.1) p.1 p.2 ↔ layer.Clashes (w.get? p.1) p.1 p.2 := by
  rw [h.get?, if_neg hp]

variable {properties : List (String × String)}

/-- The keys behind the first differ from it. -/
theorem ne_of_mem_tail {p : String × String} (hkeys : (((key, value) :: properties).map (·.1)).Nodup) (hp : p ∈ properties) :
    p.1 ≠ key := by
  intro hkey
  have hmem : p.1 ∈ properties.map (·.1) := List.mem_map_of_mem hp
  rw [hkey] at hmem
  exact (List.nodup_cons.mp hkeys).1 hmem

/-- If a property clashes with what is there before the first of them is set, one of them is refused: none of those set in between has
its key. -/
theorem setMany_of_clash (hkeys : (properties.map (·.1)).Nodup) (h : ∃ p ∈ properties, layer.Clashes (w.get? p.1) p.1 p.2) :
    ∃ cause, (setMany layer w properties).2 = .error (.configuration cause) := by
  induction properties generalizing w with
  | nil =>
    obtain ⟨p, hp, -⟩ := h
    exact absurd hp List.not_mem_nil
  | cons first rest ih =>
    obtain ⟨key, value⟩ := first
    rw [setMany]
    by_cases hfirst : layer.Clashes (w.get? key) key value
    · obtain ⟨cause, hcause⟩ := set_of_clash hfirst
      rw [hcause]
      exact ⟨cause, rfl⟩
    · obtain ⟨next, hnext, hsets⟩ := set_of_no_clash hfirst
      rw [hnext]
      obtain ⟨p, hp, hclash⟩ := h
      have hrest : p ∈ rest := by
        rcases List.mem_cons.mp hp with rfl | hp
        · exact absurd hclash hfirst
        · exact hp
      exact ih (List.nodup_cons.mp hkeys).2 ⟨p, hrest, (hsets.clashes_iff (ne_of_mem_tail hkeys hrest)).mpr hclash⟩

/-- If no property clashes with what is there before the first of them is set, they are all set. -/
theorem setMany_of_no_clash (hw : w.keys.Nodup) (hkeys : (properties.map (·.1)).Nodup)
    (h : ∀ p ∈ properties, ¬layer.Clashes (w.get? p.1) p.1 p.2) :
    ∃ next, setMany layer w properties = (next, .ok ()) ∧ w.SetsAll properties next := by
  induction properties generalizing w with
  | nil => exact ⟨w, rfl, SetsAll.refl hw⟩
  | cons first rest ih =>
    obtain ⟨key, value⟩ := first
    obtain ⟨hfirst, hrest⟩ := List.forall_mem_cons.mp h
    obtain ⟨next, hnext, hsets⟩ := set_of_no_clash hfirst
    have hclean : ∀ p ∈ rest, ¬layer.Clashes (next.get? p.1) p.1 p.2 := by
      intro p hp
      rw [hsets.clashes_iff (ne_of_mem_tail hkeys hp)]
      exact hrest p hp
    obtain ⟨hkey, hkeys⟩ := List.nodup_cons.mp hkeys
    obtain ⟨last, hlast, hall⟩ := ih (hsets.nodup hw) hkeys hclean
    refine ⟨last, ?_, hsets.cons hall hw hkey⟩
    rw [setMany, hnext]
    exact hlast

/-! ## Layers on top of each other -/

/-- Layers on top of others are applied to what those come to. -/
theorem applyAll_append (w : WithClause) (below layers : List Layer) :
    w.applyAll (below ++ layers) = w.applyAll below >>= fun next => next.applyAll layers := by
  induction below generalizing w with
  | nil => rfl
  | cons layer rest ih =>
    rw [List.cons_append, applyAll, applyAll]
    split
    · exact ih _
    · rfl

theorem applyAll_singleton (w : WithClause) (layer : Layer) :
    w.applyAll [layer] = (w.apply layer).2.map fun _ => (w.apply layer).1 := by
  rw [applyAll]
  obtain ⟨next, _ | _⟩ := w.apply layer <;> rfl

/-- A layer without properties changes nothing. -/
theorem applyAll_of_empty (w : WithClause) (layer : Layer) (h : layer.properties = .empty) : w.applyAll [layer] = .ok w := by
  rw [applyAll_singleton, apply, h]
  rfl

end WithClause

/-- No key of a dictionary is repeated. -/
theorem Dict.nodup_keys {α : Type} (d : Dict α) : (d.entries.map (·.1)).Nodup := by
  rw [List.Nodup, List.pairwise_map]
  refine d.sorted.imp fun hlt heq => ?_
  rw [heq] at hlt
  exact String.lt_irrefl _ hlt

end FlinkSql
