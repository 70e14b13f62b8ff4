import FlinkSql.Proofs.Outcome
import FlinkSql.Proofs.Table.Refused

/-!
# Layers in either order

Two layers that may not override can be put on a clause in either order. Whether both are applied depends on three facts, and none of
them on the order: the clause admits the one, it admits the other (`WithClause.Admits`), and the two agree where they set the same key
(`Layer.Agrees`). A layer that has been applied, whether it may override or not, can be applied again and then changes nothing.
-/

namespace FlinkSql

/-- Where two layers set the same key, they give it the same value. -/
def Layer.Agrees (a b : Layer) : Prop := ∀ p ∈ a.properties.entries, ∀ q ∈ b.properties.entries, p.1 = q.1 → p.2 = q.2

theorem Layer.Agrees.symm {a b : Layer} (h : a.Agrees b) : b.Agrees a := by
  intro q hq p hp hkey
  exact (h p hp q hq hkey.symm).symm

/-- A layer that may not override can set a key to the value that it has, and a key that is new and not reserved. -/
theorem Layer.not_clashes_iff {layer : Layer} (h : layer.mayOverride = false) {soFar : Option String} {key value : String} :
    ¬layer.Clashes soFar key value ↔ soFar = some value ∨ (soFar = none ∧ WithClause.isReserved key = false) := by
  cases soFar with
  | none => simp [Clashes]
  | some old => simp [Clashes, h]

namespace WithClause

variable {w next : WithClause} {a b layer : Layer}

/-- What a layer sets that may not override: keys to the values that they have in the clause, and new keys that are not reserved. -/
def Admits (w : WithClause) (layer : Layer) : Prop :=
  ∀ p ∈ layer.properties.entries, w.get? p.1 = some p.2 ∨ (w.get? p.1 = none ∧ isReserved p.1 = false)

/-- A value that a dictionary gives to a key is one of its entries. -/
theorem mem_of_lookup {properties : List (String × String)} {key value : String} (h : properties.lookup key = some value) :
    (key, value) ∈ properties := by
  rw [← get?_fixed] at h
  simpa [pairs, fixed] using mem_pairs_of_get? h

/-! ## One layer -/

/-- A layer that is applied is taken over as a whole. -/
theorem takes_of_apply (h : w.apply layer = (next, .ok ())) : Takes layer w layer.properties.entries next :=
  takes_of_setMany layer.properties.nodup_keys h

/-- A layer that may not override is applied if the clause admits it, and only then. -/
theorem apply_eq_ok_iff (hw : w.keys.Nodup) (h : layer.mayOverride = false) :
    (∃ next, w.apply layer = (next, .ok ())) ↔ w.Admits layer := by
  constructor
  · rintro ⟨next, hnext⟩ p hp
    exact (Layer.not_clashes_iff h).mp ((takes_of_apply hnext).clean p hp)
  · intro hadmits
    have hclean : ∀ p ∈ layer.properties.entries, ¬layer.Clashes (w.get? p.1) p.1 p.2 := by
      intro p hp
      exact (Layer.not_clashes_iff h).mpr (hadmits p hp)
    obtain ⟨next, hnext, -⟩ := setMany_of_no_clash hw layer.properties.nodup_keys hclean
    exact ⟨next, hnext⟩

/-- A layer that has been applied is held by the clause, and applying it again leaves the clause alone. -/
theorem apply_again (h : w.apply layer = (next, .ok ())) : next.apply layer = (next, .ok ()) := by
  refine setMany_self layer fun p hp => ?_
  rw [(takes_of_apply h).get?, lookup_of_mem layer.properties.nodup_keys hp]
  rfl

/-! ## Two layers -/

/-- What is admitted on top of a layer was admitted without it, as far as the two layers agree. -/
theorem admits_next_iff (ha : w.Admits a) (h : w.apply a = (next, .ok ())) : next.Admits b ↔ w.Admits b ∧ a.Agrees b := by
  have hget := (takes_of_apply h).get?
  constructor
  · intro hb
    refine ⟨fun q hq => ?_, fun p hp q hq hkey => ?_⟩
    · have hvalue := hb q hq
      rw [hget] at hvalue
      cases hlookup : a.properties.entries.lookup q.1 with
      | none => simpa [hlookup] using hvalue
      | some value =>
        -- the key has the value of `a` now, which `a` could give it only if it had that value or was new
        obtain rfl : value = q.2 := by simpa [hlookup] using hvalue
        exact ha (q.1, q.2) (mem_of_lookup hlookup)
    · have hvalue := hb q hq
      rw [hget, ← hkey, lookup_of_mem a.properties.nodup_keys hp] at hvalue
      simpa using hvalue
  · rintro ⟨hb, hagrees⟩ q hq
    rw [hget]
    cases hlookup : a.properties.entries.lookup q.1 with
    | none => simpa using hb q hq
    | some value => exact Or.inl (congrArg some (hagrees _ (mem_of_lookup hlookup) q hq rfl))

theorem applyAll_singleton_eq_ok : w.applyAll [layer] = .ok next ↔ w.apply layer = (next, .ok ()) := by
  rw [applyAll_singleton]
  obtain ⟨after, _ | _⟩ := w.apply layer <;> simp [Except.map]

/-- One layer on top of another. -/
theorem applyAll_pair_eq_ok :
    w.applyAll [a, b] = .ok next ↔ ∃ mid, w.apply a = (mid, .ok ()) ∧ mid.apply b = (next, .ok ()) := by
  rw [← List.singleton_append, applyAll_append, bind_eq_ok]
  simp only [applyAll_singleton_eq_ok]

/-- Two layers that may not override are both applied if the clause admits each of them and they agree. None of this depends on which
of them comes first. -/
theorem applyAll_pair_iff (hw : w.keys.Nodup) (ha : a.mayOverride = false) (hb : b.mayOverride = false) :
    (∃ next, w.applyAll [a, b] = .ok next) ↔ w.Admits a ∧ w.Admits b ∧ a.Agrees b := by
  simp only [applyAll_pair_eq_ok]
  constructor
  · rintro ⟨next, mid, hmid, hnext⟩
    have hadmits := (apply_eq_ok_iff hw ha).mp ⟨mid, hmid⟩
    have hkeys : mid.keys.Nodup := by simpa [hmid] using (w.lastsIn_apply a).nodup hw
    exact ⟨hadmits, (admits_next_iff hadmits hmid).mp ((apply_eq_ok_iff hkeys hb).mp ⟨next, hnext⟩)⟩
  · rintro ⟨hadmits, hboth⟩
    obtain ⟨mid, hmid⟩ := (apply_eq_ok_iff hw ha).mpr hadmits
    have hkeys : mid.keys.Nodup := by simpa [hmid] using (w.lastsIn_apply a).nodup hw
    obtain ⟨next, hnext⟩ := (apply_eq_ok_iff hkeys hb).mpr ((admits_next_iff hadmits hmid).mpr hboth)
    exact ⟨next, mid, hmid, hnext⟩

/-- What is read on top of two layers. -/
theorem get?_pair (h : w.applyAll [a, b] = .ok next) (key : String) :
    next.get? key = (b.properties.entries.lookup key).or ((a.properties.entries.lookup key).or (w.get? key)) := by
  obtain ⟨mid, hmid, hnext⟩ := applyAll_pair_eq_ok.mp h
  rw [(takes_of_apply hnext).get?, (takes_of_apply hmid).get?]

/-- Where two layers agree, it does not matter which of them is asked first. -/
theorem lookup_or_comm (h : a.Agrees b) (key : String) (below : Option String) :
    (b.properties.entries.lookup key).or ((a.properties.entries.lookup key).or below) =
      (a.properties.entries.lookup key).or ((b.properties.entries.lookup key).or below) := by
  cases hfirst : a.properties.entries.lookup key with
  | none => rfl
  | some value =>
    cases hsecond : b.properties.entries.lookup key with
    | none => rfl
    | some other => exact congrArg some (h _ (mem_of_lookup hfirst) _ (mem_of_lookup hsecond) rfl).symm

/-- On a clause in which no key is repeated, two layers that may not override are applied in the one order exactly if they are applied in
the other, and then each key has the same value. Any layer that has been applied is applied again, and the clause stays what it was: the
keys, their values, their order. -/
theorem layers_in_either_order (hw : w.keys.Nodup) :
    (∀ a b : Layer, a.mayOverride = false → b.mayOverride = false →
      ((∃ ab, w.applyAll [a, b] = .ok ab) ↔ ∃ ba, w.applyAll [b, a] = .ok ba) ∧
        ∀ ab ba, w.applyAll [a, b] = .ok ab → w.applyAll [b, a] = .ok ba → ∀ key, ab.get? key = ba.get? key) ∧
      ∀ layer next, w.apply layer = (next, .ok ()) → next.apply layer = (next, .ok ()) := by
  refine ⟨fun a b ha hb => ⟨?_, fun ab ba hab hba key => ?_⟩, fun layer next => apply_again⟩
  · rw [applyAll_pair_iff hw ha hb, applyAll_pair_iff hw hb ha]
    constructor
    · rintro ⟨hfirst, hsecond, hagrees⟩
      exact ⟨hsecond, hfirst, hagrees.symm⟩
    · rintro ⟨hsecond, hfirst, hagrees⟩
      exact ⟨hfirst, hsecond, hagrees.symm⟩
  · obtain ⟨-, -, hagrees⟩ := (applyAll_pair_iff hw ha hb).mp ⟨ab, hab⟩
    rw [get?_pair hab, get?_pair hba]
    exact lookup_or_comm hagrees key (w.get? key)

/-- A topic that is written by one task. -/
def writtenByOne : List (String × String) := orderTopic ++ [("sink.parallelism", "1")]

/-- A setting for all tables. -/
def inTurn : Layer := ⟨"global", .ofList [("sink.partitioner", "round-robin")], false⟩

/-- Settings of a topic. One of them is there already, with the same value. -/
def atLeastOnce : Layer :=
  ⟨"topic", .ofList [("sink.delivery-guarantee", "at-least-once"), ("sink.parallelism", "1")], false⟩

/-- A setting that replaces one. -/
def byFour : Layer := ⟨"additional", .ofList [("sink.parallelism", "4")], true⟩

/-- The order of two layers shows in the order of the new keys, and not in what is read. A value that has been replaced is replaced once. -/
theorem writtenByOne_in_either_order :
    (fixed writtenByOne).keys.Nodup ∧ inTurn.mayOverride = false ∧ atLeastOnce.mayOverride = false ∧
      (∃ ab ba, (fixed writtenByOne).applyAll [inTurn, atLeastOnce] = .ok ab ∧
        (fixed writtenByOne).applyAll [atLeastOnce, inTurn] = .ok ba ∧ ab.keys ≠ ba.keys ∧ ∀ key, ab.get? key = ba.get? key) ∧
      ∃ next, (fixed writtenByOne).apply byFour = (next, .ok ()) ∧ next.get? "sink.parallelism" = some "4" ∧
        next.apply byFour = (next, .ok ()) := by
  have hnodup : (fixed writtenByOne).keys.Nodup := by decide
  obtain ⟨horder, hagain⟩ := layers_in_either_order hnodup
  obtain ⟨-, hvalues⟩ := horder inTurn atLeastOnce rfl rfl
  have hab : (fixed writtenByOne).applyAll [inTurn, atLeastOnce] =
      .ok ⟨(fixed writtenByOne).entries ++ [⟨"sink.partitioner", "round-robin", "global"⟩,
        ⟨"sink.delivery-guarantee", "at-least-once", "topic"⟩]⟩ := rfl
  have hba : (fixed writtenByOne).applyAll [atLeastOnce, inTurn] =
      .ok ⟨(fixed writtenByOne).entries ++ [⟨"sink.delivery-guarantee", "at-least-once", "topic"⟩,
        ⟨"sink.partitioner", "round-robin", "global"⟩]⟩ := rfl
  have hfour : (fixed writtenByOne).apply byFour = (⟨[⟨"connector", "kafka", "fixed"⟩, ⟨"topic", "orders", "fixed"⟩,
      ⟨"sink.parallelism", "4", "additional"⟩]⟩, .ok ()) := rfl
  exact ⟨hnodup, rfl, rfl, ⟨_, _, hab, hba, by decide, hvalues _ _ hab hba⟩, _, hfour, by decide, hagain _ _ hfour⟩

end WithClause

end FlinkSql
