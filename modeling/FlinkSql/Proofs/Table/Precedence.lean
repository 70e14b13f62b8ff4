import FlinkSql.Proofs.Table.Setting

/-!
# Which layer counts

What layers on top of fixed properties come to, said without applying them: a key has the value of the last layer that sets it
(`Layers.lastValue?`), and stands where the first layer that sets it puts it (`Layers.firstKeys`). Layers are refused if and only if
one of them clashes with what those below it come to (`Layers.Clash`).
-/

namespace FlinkSql

namespace Layers

/-- What is set from the lowest layer up, each layer in the order of its keys. -/
def settings (fixed : List (String × String)) (layers : List Layer) : List (List (String × String)) :=
  fixed :: layers.map (·.properties.entries)

/-- The value of a key: that of the last layer that sets it. -/
def lastValue? (fixed : List (String × String)) (layers : List Layer) (key : String) : Option String :=
  ((settings fixed layers).filterMap (·.lookup key)).getLast?

/-- All keys that are set, each where it is set first. -/
def firstKeys (fixed : List (String × String)) (layers : List Layer) : List String :=
  ((settings fixed layers).flatten.map (·.1)).eraseDups

/-- A layer sets a key that it may not set over the value that the key has from below. -/
def ClashesOver (fixed : List (String × String)) (below : List Layer) (layer : Layer) : Prop :=
  ∃ p ∈ layer.properties.entries, layer.Clashes (lastValue? fixed below p.1) p.1 p.2

instance (fixed : List (String × String)) (below : List Layer) (layer : Layer) : Decidable (ClashesOver fixed below layer) :=
  inferInstanceAs (Decidable (∃ p ∈ layer.properties.entries, layer.Clashes (lastValue? fixed below p.1) p.1 p.2))

/-- Some layer clashes with those below it. -/
def Clash (fixed : List (String × String)) (layers : List Layer) : Prop :=
  ∃ below layer above, layers = below ++ layer :: above ∧ ClashesOver fixed below layer

/-- Properties list what is set: each key once, in the order in which the keys are set first, with the value that is set last. -/
structure Lists (fixed : List (String × String)) (layers : List Layer) (properties : List (String × String)) : Prop where
  order : properties.map (·.1) = firstKeys fixed layers
  once : (properties.map (·.1)).Nodup
  value : ∀ p ∈ properties, lastValue? fixed layers p.1 = some p.2

variable {fixed : List (String × String)} {below layers : List Layer} {layer : Layer} {w next : WithClause}

/-! ## One more layer -/

/-- One more layer is one more list of settings. -/
theorem settings_concat (fixed : List (String × String)) (below : List Layer) (layer : Layer) :
    settings fixed (below ++ [layer]) = settings fixed below ++ [layer.properties.entries] := by
  rw [settings, List.map_append]
  rfl

/-- A key has the value that the last layer gives it, or the one from below if that layer does not set it. -/
theorem lastValue?_concat (key : String) :
    lastValue? fixed (below ++ [layer]) key = (layer.properties.entries.lookup key).or (lastValue? fixed below key) := by
  have hlayer : [layer.properties.entries].filterMap (·.lookup key) = (layer.properties.entries.lookup key).toList := by
    rw [List.filterMap_cons, List.filterMap_nil]
    cases layer.properties.entries.lookup key <;> rfl
  rw [lastValue?, settings_concat, List.filterMap_append, List.getLast?_append, hlayer, lastValue?]
  cases layer.properties.entries.lookup key <;> rfl

/-- A layer puts its new keys behind those that are set below it. -/
theorem firstKeys_concat :
    firstKeys fixed (below ++ [layer]) = (firstKeys fixed below ++ layer.properties.entries.map (·.1)).eraseDups := by
  rw [firstKeys, firstKeys, settings_concat, List.flatten_append, List.map_append, eraseDups_append_of_eraseDups, List.flatten_singleton]

/-! ## Layer by layer -/

/-- A clause is what layers come to. -/
structure Settled (fixed : List (String × String)) (layers : List Layer) (w : WithClause) : Prop where
  keys : w.keys = firstKeys fixed layers
  get? : ∀ key, w.get? key = lastValue? fixed layers key

/-- Fixed properties with distinct keys list themselves. -/
theorem settled_fixed (h : (fixed.map (·.1)).Nodup) : Settled fixed [] (.fixed fixed) where
  keys := by
    rw [WithClause.keys_fixed, firstKeys, settings, List.map_nil, List.flatten_singleton, eraseDups_of_nodup h]
  get? key := by
    rw [WithClause.get?_fixed, lastValue?, settings, List.map_nil, List.filterMap_cons, List.filterMap_nil]
    cases fixed.lookup key <;> rfl

namespace Settled

theorem nodup (h : Settled fixed layers w) : w.keys.Nodup := by
  rw [h.keys]
  exact nodup_eraseDups _

theorem lists (h : Settled fixed layers w) : Lists fixed layers w.pairs where
  order := w.map_fst_pairs.trans h.keys
  once := w.map_fst_pairs.symm ▸ h.nodup
  value p hp := by rw [← h.get?, WithClause.get?_of_mem_pairs h.nodup hp]

/-- A layer that clashes with those below it is refused. -/
theorem apply_of_clash (h : Settled fixed below w) (hclash : ClashesOver fixed below layer) :
    ∃ cause, (w.apply layer).2 = .error (.configuration cause) := by
  obtain ⟨p, hp, hclash⟩ := hclash
  rw [← h.get?] at hclash
  exact WithClause.setMany_of_clash layer.properties.nodup_keys ⟨p, hp, hclash⟩

/-- A layer that does not clash with those below it is applied. -/
theorem apply_of_no_clash (h : Settled fixed below w) (hclean : ¬ClashesOver fixed below layer) :
    ∃ next, w.apply layer = (next, .ok ()) ∧ Settled fixed (below ++ [layer]) next := by
  have hclean : ∀ p ∈ layer.properties.entries, ¬layer.Clashes (w.get? p.1) p.1 p.2 := by
    intro p hp hclash
    rw [h.get?] at hclash
    exact hclean ⟨p, hp, hclash⟩
  obtain ⟨next, hnext, hall⟩ := WithClause.setMany_of_no_clash h.nodup layer.properties.nodup_keys hclean
  refine ⟨next, hnext, ⟨?_, fun key => ?_⟩⟩
  · rw [hall.keys, h.keys, firstKeys_concat]
  · rw [hall.get?, h.get?, lastValue?_concat]

end Settled

/-- With one more layer on top there is a clash if there was one, or if that layer clashes. -/
theorem clash_concat : Clash fixed (below ++ [layer]) ↔ Clash fixed below ∨ ClashesOver fixed below layer := by
  constructor
  · rintro ⟨lower, clashing, above, hsplit, hclash⟩
    rcases List.eq_nil_or_concat above with rfl | ⟨upper, top, rfl⟩
    · obtain ⟨rfl, hlayer⟩ := List.append_inj' hsplit rfl
      obtain rfl := (List.cons.inj hlayer).1
      exact Or.inr hclash
    · rw [List.concat_eq_append, ← List.cons_append, ← List.append_assoc] at hsplit
      obtain ⟨hbelow, -⟩ := List.append_inj' hsplit rfl
      exact Or.inl ⟨lower, clashing, upper, hbelow, hclash⟩
  · rintro (⟨lower, clashing, above, rfl, hclash⟩ | hclash)
    · exact ⟨lower, clashing, above ++ [layer], by rw [List.append_assoc, List.cons_append], hclash⟩
    · exact ⟨below, layer, [], rfl, hclash⟩

/-- Layers are refused if one of them clashes with those below it. Otherwise they are applied, and settle what the clause holds. -/
theorem applyAll_settles (h : (fixed.map (·.1)).Nodup) (layers : List Layer) :
    (Clash fixed layers ∧ ∃ cause, (WithClause.fixed fixed).applyAll layers = .error (.configuration cause)) ∨
      (¬Clash fixed layers ∧ ∃ next, (WithClause.fixed fixed).applyAll layers = .ok next ∧ Settled fixed layers next) := by
  induction layers using List.reverseRecOn with
  | nil =>
    refine Or.inr ⟨?_, _, rfl, settled_fixed h⟩
    rintro ⟨below, layer, above, hsplit, -⟩
    exact List.append_ne_nil_of_right_ne_nil below (List.cons_ne_nil layer above) hsplit.symm
  | append_singleton below layer ih =>
    rw [WithClause.applyAll_append, clash_concat]
    rcases ih with ⟨hclash, cause, hbelow⟩ | ⟨hclean, w, hbelow, hsettled⟩
    · rw [hbelow]
      exact Or.inl ⟨Or.inl hclash, cause, rfl⟩
    · have hlayer : (WithClause.fixed fixed).applyAll below >>= (fun next => next.applyAll [layer]) = w.applyAll [layer] := by
        rw [hbelow]
        rfl
      rw [hlayer, WithClause.applyAll_singleton]
      by_cases hover : ClashesOver fixed below layer
      · obtain ⟨cause, hcause⟩ := hsettled.apply_of_clash hover
        rw [hcause]
        exact Or.inl ⟨Or.inr hover, cause, rfl⟩
      · obtain ⟨next, happly, hnext⟩ := hsettled.apply_of_no_clash hover
        rw [happly]
        exact Or.inr ⟨not_or.mpr ⟨hclean, hover⟩, next, rfl, hnext⟩

end Layers

end FlinkSql
