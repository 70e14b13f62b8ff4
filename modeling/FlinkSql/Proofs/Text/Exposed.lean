import FlinkSql.Proofs.Text.Neutral

/-!
# Exposed parts

A text exposes a part that stands in it behind a closed text, that is, behind one that ends outside quoted regions. There the part
is read as it would be on its own: what is quoted in the part is quoted in the whole, and nothing else of it.
-/

namespace FlinkSql.Text

/-! ## Closed texts -/

/-- A text that ends outside quoted regions. -/
def Closed (s : String) : Prop := regionAfter none s.toList = none

instance (s : String) : Decidable (Closed s) := inferInstanceAs (Decidable (regionAfter none s.toList = none))

/-- A text after another is read from the region in which that ends. -/
theorem regionAfter_append (region : Option Char) (s t : List Char) :
    regionAfter region (s ++ t) = regionAfter (regionAfter region s) t :=
  List.foldl_append

/-- Closed texts one after the other are closed. -/
theorem Closed.append {s t : String} (hs : Closed s) (ht : Closed t) : Closed (s ++ t) := by
  rw [Closed, String.toList_append, regionAfter_append, show _ = _ from hs]
  exact ht

/-- Closed texts in a row are closed. -/
theorem closed_join {texts : List String} (h : ∀ t ∈ texts, Closed t) : Closed (String.join texts) := by
  induction texts with
  | nil => rfl
  | cons t texts ih =>
    obtain ⟨hhead, hrest⟩ := List.forall_mem_cons.mp h
    rw [String.join_cons]
    exact hhead.append (ih hrest)

/-- A neutral text is closed. -/
theorem Neutral.closed {s : String} (h : Neutral s) : Closed s := (Reader.read_sound h).1

/-! ## Exposed parts -/

/-- The part stands in the text behind a closed text. -/
def Exposes (part text : String) : Prop :=
  ∃ front back, text.toList = front ++ part.toList ++ back ∧ regionAfter none front = none

/-- A text exposes itself. -/
theorem exposes_self (text : String) : Exposes text text :=
  ⟨[], [], by rw [List.nil_append, List.append_nil], rfl⟩

/-- What a part exposes is exposed by the whole. -/
theorem Exposes.trans {part text whole : String} (h : Exposes part text) (htext : Exposes text whole) : Exposes part whole := by
  obtain ⟨front, back, htext', hfront⟩ := h
  obtain ⟨before, after, hwhole, hbefore⟩ := htext
  refine ⟨before ++ front, back ++ after, ?_, ?_⟩
  · simp only [hwhole, htext', List.append_assoc]
  · rw [regionAfter_append, hbefore]
    exact hfront

/-- A part stands in the text with a closed text in front of it. -/
theorem Exposes.behind {part text front : String} (h : Exposes part text) (hfront : Closed front) : Exposes part (front ++ text) := by
  obtain ⟨before, after, htext, hbefore⟩ := h
  refine ⟨front.toList ++ before, after, ?_, ?_⟩
  · rw [String.toList_append, htext, List.append_assoc, List.append_assoc, List.append_assoc]
  · rw [regionAfter_append, show _ = _ from hfront]
    exact hbefore

/-- A part stands in the text with another one behind it. -/
theorem Exposes.then {part text : String} (h : Exposes part text) (back : String) : Exposes part (text ++ back) := by
  obtain ⟨before, after, htext, hbefore⟩ := h
  refine ⟨before, after ++ back.toList, ?_, hbefore⟩
  rw [String.toList_append, htext, List.append_assoc]

/-- Behind a closed text a part is exposed. -/
theorem Closed.exposes {front : String} (h : Closed front) (part : String) : Exposes part (front ++ part) :=
  (exposes_self part).behind h

/-- Of closed texts in a list each is exposed. -/
theorem exposes_intercalate {separator : String} (hseparator : Closed separator) {texts : List String}
    (hclosed : ∀ t ∈ texts, Closed t) {part : String} (h : part ∈ texts) : Exposes part (separator.intercalate texts) := by
  induction texts with
  | nil => cases h
  | cons t rest ih =>
    obtain ⟨hhead, hrest⟩ := List.forall_mem_cons.mp hclosed
    cases rest with
    | nil =>
      rw [List.mem_singleton.mp h, String.intercalate_singleton]
      exact exposes_self t
    | cons u rest =>
      rw [String.intercalate_cons_cons]
      rcases List.mem_cons.mp h with rfl | hmem
      · exact ((exposes_self part).then separator).then _
      · exact (ih hrest hmem).behind (hhead.append hseparator)

/-- Of closed texts in a row each is exposed. -/
theorem exposes_join {texts : List String} (hclosed : ∀ t ∈ texts, Closed t) {part : String} (h : part ∈ texts) :
    Exposes part (String.join texts) := by
  induction texts with
  | nil => cases h
  | cons t rest ih =>
    obtain ⟨hhead, hrest⟩ := List.forall_mem_cons.mp hclosed
    rw [String.join_cons]
    rcases List.mem_cons.mp h with rfl | hmem
    · exact (exposes_self part).then _
    · exact (ih hrest hmem).behind hhead

end FlinkSql.Text
