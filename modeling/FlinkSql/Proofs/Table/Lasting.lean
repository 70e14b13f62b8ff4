import FlinkSql.Proofs.Table.Setting

/-!
# What lasts of a clause

A layer that is refused leaves behind what it set before the property that clashed, and more layers may follow. However a clause goes on
in this way, its keys stand where they stood, no key is listed twice, and the reserved keys are those of the fixed layer
(`WithClause.fixed_layer_lasts`).
-/

namespace FlinkSql.WithClause

variable {w next later : WithClause} {layer : Layer} {key value : String}

/-- What `w` and a later state of it have in common: the keys of `w` stand where they stood, no key is repeated if none was, and the
reserved keys have neither appeared nor changed. -/
structure LastsIn (w later : WithClause) : Prop where
  keys : w.keys <+: later.keys
  nodup : w.keys.Nodup → later.keys.Nodup
  reserved : ∀ key, isReserved key = true → later.get? key = w.get? key

namespace LastsIn

theorem refl (w : WithClause) : w.LastsIn w :=
  ⟨List.prefix_refl _, id, fun _ _ => rfl⟩

theorem trans (h : w.LastsIn next) (h' : next.LastsIn later) : w.LastsIn later where
  keys := h.keys.trans h'.keys
  nodup := h'.nodup ∘ h.nodup
  reserved key hkey := (h'.reserved key hkey).trans (h.reserved key hkey)

/-- A key is present as long as it has a value, so a reserved key is present later exactly if it was. -/
theorem mem_keys_iff (h : w.LastsIn later) (hkey : isReserved key = true) : key ∈ later.keys ↔ key ∈ w.keys := by
  rw [← not_iff_not, ← get?_eq_none_iff, ← get?_eq_none_iff, h.reserved key hkey]

end LastsIn

/-- A reserved key that does not clash has the value already. -/
theorem get?_of_no_clash (h : ¬layer.Clashes (w.get? key) key value) (hkey : isReserved key = true) : w.get? key = some value := by
  cases hget : w.get? key with
  | some old =>
    rw [hget] at h
    exact congrArg some (not_not.mp fun hvalue => h ⟨hvalue, Or.inl hkey⟩)
  | none =>
    rw [hget] at h
    exact absurd hkey h

/-- Setting one property leaves the reserved keys and the order as they are. -/
theorem lastsIn_of_set (h : set layer w key value = .ok next) : w.LastsIn next := by
  obtain ⟨hclash, hsets⟩ := sets_of_set h
  refine ⟨?_, hsets.nodup, fun other hother => ?_⟩
  · rw [hsets.keys]
    split
    · exact List.prefix_refl _
    · exact List.prefix_append _ _
  · rw [hsets.get? other]
    split
    · rename_i hsame
      rw [hsame] at hother ⊢
      exact (get?_of_no_clash hclash hother).symm
    · rfl

/-- Property by property: where one is refused, what was set before it stays. -/
theorem lastsIn_setMany (layer : Layer) (w : WithClause) (pairs : List (String × String)) : w.LastsIn (setMany layer w pairs).1 := by
  induction pairs generalizing w with
  | nil => exact LastsIn.refl w
  | cons p rest ih =>
    rw [setMany]
    split
    · rename_i next hset
      exact (lastsIn_of_set hset).trans (ih next)
    · exact LastsIn.refl w

/-- A layer leaves the reserved keys and the order as they are, also one that is refused on the way. -/
theorem lastsIn_apply (w : WithClause) (layer : Layer) : w.LastsIn (w.apply layer).1 :=
  lastsIn_setMany layer w layer.properties.entries

/-- The clause after layers have been applied one by one, whether each was refused or not. -/
def applyEach (w : WithClause) (layers : List Layer) : WithClause := layers.foldl (fun w layer => (w.apply layer).1) w

/-- Layers one after the other leave the reserved keys and the order as they are, whichever of them are refused. -/
theorem lastsIn_applyEach (w : WithClause) (layers : List Layer) : w.LastsIn (w.applyEach layers) := by
  induction layers generalizing w with
  | nil => exact LastsIn.refl w
  | cons layer rest ih => exact (w.lastsIn_apply layer).trans (ih (w.apply layer).1)

/-- Layers that are all applied are applied one by one. -/
theorem eq_applyEach_of_applyAll {layers : List Layer} (h : w.applyAll layers = .ok next) : next = w.applyEach layers := by
  induction layers generalizing w with
  | nil => exact (Except.ok.inj h).symm
  | cons layer rest ih =>
    rw [applyAll] at h
    split at h
    · rename_i after happly
      rw [ih h, applyEach, applyEach, List.foldl_cons, happly]
    · cases h

/-- Starting from fixed properties of which no two have one key, whatever layers are applied and whichever of them are refused: no key
is listed twice, the keys that are listed keep their places while more layers follow, and a key that is reserved, in any letter case, is
there and has its value exactly as in the fixed properties. -/
theorem fixed_layer_lasts {properties : List (String × String)} (h : (properties.map (·.1)).Nodup) (earlier more : List Layer) :
    ((fixed properties).applyEach (earlier ++ more)).keys.Nodup ∧
      ((fixed properties).applyEach earlier).keys <+: ((fixed properties).applyEach (earlier ++ more)).keys ∧
      ∀ key, isReserved key = true →
        (key ∈ ((fixed properties).applyEach (earlier ++ more)).keys ↔ key ∈ properties.map (·.1)) ∧
        ((fixed properties).applyEach (earlier ++ more)).get? key = properties.lookup key := by
  have hrun : (fixed properties).applyEach (earlier ++ more) = ((fixed properties).applyEach earlier).applyEach more :=
    List.foldl_append
  have hlasts := (fixed properties).lastsIn_applyEach (earlier ++ more)
  refine ⟨hlasts.nodup (keys_fixed properties ▸ h), ?_, fun key hkey => ⟨?_, ?_⟩⟩
  · rw [hrun]
    exact (((fixed properties).applyEach earlier).lastsIn_applyEach more).keys
  · rw [hlasts.mem_keys_iff hkey, keys_fixed]
  · rw [hlasts.reserved key hkey, get?_fixed]

/-- The topic of a table. -/
def orderTopic : List (String × String) := [("connector", "kafka"), ("topic", "orders")]

/-- A setting for all tables. -/
def oneWriter : Layer := ⟨"global", .ofList [("sink.parallelism", "1")], false⟩

/-- A layer that may override. It is refused at the topic, when the parallelism has been replaced already. -/
def fourWriters : Layer := ⟨"additional", .ofList [("sink.parallelism", "4"), ("topic", "payments")], true⟩

/-- A layer that is refused half way leaves the parallelism replaced, and the topic as it was. -/
theorem orderTopic_lasts :
    (orderTopic.map (·.1)).Nodup ∧ (((fixed orderTopic).applyEach [oneWriter]).apply fourWriters).2.toOption = none ∧
      ((fixed orderTopic).applyEach [oneWriter, fourWriters]).pairs =
        [("connector", "kafka"), ("topic", "orders"), ("sink.parallelism", "4")] ∧
      ((fixed orderTopic).applyEach [oneWriter, fourWriters]).keys.Nodup ∧
      ((fixed orderTopic).applyEach [oneWriter]).keys <+: ((fixed orderTopic).applyEach [oneWriter, fourWriters]).keys ∧
      ((fixed orderTopic).applyEach [oneWriter, fourWriters]).get? "topic" = some "orders" := by
  have hnodup : (orderTopic.map (·.1)).Nodup := by decide
  obtain ⟨hkeys, hprefix, hreserved⟩ := fixed_layer_lasts hnodup [oneWriter] [fourWriters]
  exact ⟨hnodup, by decide, by decide, hkeys, hprefix, (hreserved "topic" (by decide)).2⟩

end FlinkSql.WithClause
