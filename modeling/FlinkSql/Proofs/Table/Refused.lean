import FlinkSql.Proofs.Table.Lasting

/-!
# What a refused layer leaves

A layer is applied property by property, and nothing is taken back when one of them is refused. The properties in front of the first
that clashes with the clause are set, and no other is touched (`WithClause.LeavesPart`). So a refused layer leaves the clause as it was
exactly if the clause held those properties already, and in general it does not (`WithClause.fourWriters_half_applied`).
-/

namespace FlinkSql.WithClause

variable {w next left : WithClause} {layer : Layer} {key value : String} {properties before : List (String × String)}
  {failure : Failure}

/-! ## Properties that are set -/

/-- A value under its key is found where no key is repeated. -/
theorem lookup_of_mem (hkeys : (properties.map (·.1)).Nodup) {p : String × String} (hp : p ∈ properties) :
    properties.lookup p.1 = some p.2 := by
  have hpairs : (fixed properties).pairs = properties := by
    rw [pairs, fixed, List.map_map]
    exact List.map_id properties
  rw [← get?_fixed]
  exact get?_of_mem_pairs (keys_fixed properties ▸ hkeys) (hpairs.symm ▸ hp)

/-- `next` is `w` with properties taken over from a layer: none of them clashed with `w`, the keys that are new stand behind the others
in the order of the properties, and a key that is among them has the value that they give it. -/
structure Takes (layer : Layer) (w : WithClause) (properties : List (String × String)) (next : WithClause) : Prop where
  clean : ∀ p ∈ properties, ¬layer.Clashes (w.get? p.1) p.1 p.2
  keys : next.keys = w.keys ++ (properties.map (·.1)).filter (· ∉ w.keys)
  get? : ∀ key, next.get? key = (properties.lookup key).or (w.get? key)

/-- The keys that are new behind one that has just been set. -/
theorem Sets.keys_append (h : w.Sets key value next) {others : List String} (hkey : key ∉ others) :
    next.keys ++ others.filter (· ∉ next.keys) = w.keys ++ (key :: others).filter (· ∉ w.keys) := by
  have hother : ∀ other ∈ others, other ≠ key := fun other hmem heq => hkey (heq ▸ hmem)
  rw [h.keys]
  by_cases hold : key ∈ w.keys
  · rw [if_pos hold, List.filter_cons_of_neg (by simpa using hold)]
  · have hfilter : others.filter (· ∉ w.keys ++ [key]) = others.filter (· ∉ w.keys) := by
      refine List.filter_congr fun other hmem => ?_
      simp [hother other hmem]
    rw [if_neg hold, hfilter, List.filter_cons_of_pos (by simpa using hold), List.append_assoc]
    rfl

/-- Properties that are all set are taken over. -/
theorem takes_of_setMany (hkeys : (properties.map (·.1)).Nodup) (h : setMany layer w properties = (next, .ok ())) :
    Takes layer w properties next := by
  induction properties generalizing w with
  | nil =>
    cases h
    exact ⟨fun _ hp => absurd hp List.not_mem_nil, (List.append_nil _).symm, fun _ => Option.none_or.symm⟩
  | cons first rest ih =>
    obtain ⟨key, value⟩ := first
    rw [setMany] at h
    split at h
    · rename_i mid hset
      obtain ⟨hfirst, hsets⟩ := sets_of_set hset
      obtain ⟨hkey, hrest⟩ := List.nodup_cons.mp hkeys
      have htakes := ih hrest h
      refine ⟨List.forall_mem_cons.mpr ⟨hfirst, fun p hp => ?_⟩, ?_, fun other => ?_⟩
      · rw [← hsets.clashes_iff (ne_of_mem_tail hkeys hp)]
        exact htakes.clean p hp
      · rw [htakes.keys]
        exact hsets.keys_append hkey
      · rw [htakes.get?]
        exact hsets.lookup_or hkey other
    · cases h

/-- A property that the clause holds already is set by leaving the clause alone. -/
theorem set_self (layer : Layer) (h : w.get? key = some value) : set layer w key value = .ok w := by
  obtain ⟨old, hold, hvalue⟩ := Option.map_eq_some_iff.mp h
  rw [set, hold]
  exact if_pos hvalue

theorem setMany_self (layer : Layer) (h : ∀ p ∈ properties, w.get? p.1 = some p.2) :
    setMany layer w properties = (w, .ok ()) := by
  induction properties with
  | nil => rfl
  | cons first rest ih =>
    obtain ⟨hfirst, hrest⟩ := List.forall_mem_cons.mp h
    rw [setMany, set_self layer hfirst]
    exact ih hrest

/-! ## A property that is refused -/

/-- Where a property is refused, those in front of it have been set, and it is refused by what they left. -/
theorem split_of_refused (h : setMany layer w properties = (left, .error failure)) :
    ∃ before refused after, properties = before ++ refused :: after ∧ setMany layer w before = (left, .ok ()) ∧
      set layer left refused.1 refused.2 = .error failure := by
  induction properties generalizing w with
  | nil => cases h
  | cons first rest ih =>
    obtain ⟨key, value⟩ := first
    rw [setMany] at h
    split at h
    · rename_i mid hset
      obtain ⟨before, refused, after, rfl, hbefore, hrefused⟩ := ih h
      refine ⟨(key, value) :: before, refused, after, rfl, ?_, hrefused⟩
      rw [setMany, hset]
      exact hbefore
    · rename_i hset
      cases h
      exact ⟨[], (key, value), rest, rfl, rfl, hset⟩

/-- A property that is refused clashed with the clause. -/
theorem clashes_of_set (h : set layer w key value = .error failure) :
    layer.Clashes (w.get? key) key value ∧ failure.kind = .configuration := by
  by_cases hclash : layer.Clashes (w.get? key) key value
  · obtain ⟨cause, hcause⟩ := set_of_clash hclash
    cases h.symm.trans hcause
    exact ⟨hclash, rfl⟩
  · obtain ⟨_, hset, -⟩ := set_of_no_clash hclash
    cases h.symm.trans hset

/-! ## A layer that is refused -/

/-- What is left of a clause and a layer that is refused: the properties of the layer in front of one of them have been taken over, and
that one is refused by what they leave, because it clashes with the clause as it was. -/
structure LeavesPart (w : WithClause) (layer : Layer) (before : List (String × String)) (refused : String × String)
    (left : WithClause) (failure : Failure) : Prop where
  listed : ∃ after, layer.properties.entries = before ++ refused :: after
  takes : Takes layer w before left
  clashes : layer.Clashes (w.get? refused.1) refused.1 refused.2
  cause : set layer left refused.1 refused.2 = .error failure
  kind : failure.kind = .configuration

/-- What has been taken over can be read, so a reader sees a difference unless the clause held all of it. -/
theorem Takes.same_iff (h : Takes layer w before left) (hkeys : (before.map (·.1)).Nodup) :
    (∀ key, left.get? key = w.get? key) ↔ ∀ p ∈ before, w.get? p.1 = some p.2 := by
  constructor
  · intro hsame p hp
    rw [← hsame, h.get?, lookup_of_mem hkeys hp]
    rfl
  · intro hheld key
    rw [h.get?]
    cases hlookup : before.lookup key with
    | none => rfl
    | some value =>
      obtain ⟨front, rest, hsplit, -⟩ := List.lookup_eq_some_iff.mp hlookup
      have hmem : (key, value) ∈ before := hsplit ▸ List.mem_append_right front List.mem_cons_self
      exact (hheld _ hmem).symm

/-- A layer that is refused is refused at the first of its properties that clashes with the clause, in the order of their keys. What
comes before that property is set, and stays set; nothing else has changed. So the clause is as it was, in every respect and to every
reader, exactly if it held those properties already. -/
theorem refused_layer_leaves_part (h : w.apply layer = (left, .error failure)) :
    ∃ before refused, LeavesPart w layer before refused left failure ∧
      (left = w ↔ ∀ p ∈ before, w.get? p.1 = some p.2) ∧
      ((∀ key, left.get? key = w.get? key) ↔ ∀ p ∈ before, w.get? p.1 = some p.2) := by
  obtain ⟨before, refused, after, hsplit, hbefore, hrefused⟩ := split_of_refused h
  have hkeys : ((before ++ refused :: after).map (·.1)).Nodup := hsplit ▸ layer.properties.nodup_keys
  rw [List.map_append, List.map_cons] at hkeys
  obtain ⟨hfront, -, hapart⟩ := List.nodup_append.mp hkeys
  have htakes := takes_of_setMany hfront hbefore
  -- the property that is refused is not among those in front of it, so what it clashes with was there before the layer
  have hget : left.get? refused.1 = w.get? refused.1 := by
    have hnew : refused.1 ∉ before.map (·.1) := fun hmem => hapart refused.1 hmem refused.1 List.mem_cons_self rfl
    rw [htakes.get?, lookup_eq_none_iff.mpr hnew, Option.none_or]
  obtain ⟨hclash, hkind⟩ := clashes_of_set hrefused
  have hsame := htakes.same_iff hfront
  refine ⟨before, refused, ⟨⟨after, hsplit⟩, htakes, hget ▸ hclash, hrefused, hkind⟩, ⟨?_, fun hheld => ?_⟩, hsame⟩
  · rintro rfl
    exact hsame.mp fun _ => rfl
  · have hself := setMany_self layer hheld
    rw [hbefore] at hself
    exact congrArg Prod.fst hself

/-- The topic is refused behind the parallelism, which the clause did not hold. -/
theorem fourWriters_leaves_part :
    ∃ left failure, (fixed orderTopic).apply fourWriters = (left, .error failure) ∧
      ∃ before refused, LeavesPart (fixed orderTopic) fourWriters before refused left failure ∧
        ¬∀ p ∈ before, (fixed orderTopic).get? p.1 = some p.2 := by
  have happly : (fixed orderTopic).apply fourWriters =
      (⟨[⟨"connector", "kafka", "fixed"⟩, ⟨"topic", "orders", "fixed"⟩, ⟨"sink.parallelism", "4", "additional"⟩]⟩,
        .error (.configuration (.reservedChanged "topic" "additional" "orders" "payments"))) := rfl
  obtain ⟨before, refused, hleaves, hunchanged, -⟩ := refused_layer_leaves_part happly
  exact ⟨_, _, happly, before, refused, hleaves, hunchanged.not.mp (by decide)⟩

/-- A layer that is refused half way: a key has a value that it did not have before, and the clause has another text. -/
theorem fourWriters_half_applied :
    ∃ left failure, (fixed orderTopic).apply fourWriters = (left, .error failure) ∧
      left.get? "sink.parallelism" = some "4" ∧ (fixed orderTopic).get? "sink.parallelism" = none ∧
      left.sql ≠ (fixed orderTopic).sql :=
  ⟨_, _, rfl, by decide, by decide, by decide +kernel⟩

end FlinkSql.WithClause
