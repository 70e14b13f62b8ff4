import FlinkSql.Proofs.Name
import FlinkSql.Proofs.Text.Unmarked

/-!
# References in a text

A column is referred to by its quoted name behind the alias of its source. `references` reads a text from left to right, without
knowing how it was written: string literals are passed over, and each name between backticks is a reference, with what stands
directly in front of it. `Citing R s` says that a text ends outside quotes and that all its references are in `R`; texts that are
citing are put together by texts that part them, such as a bracket, a comma or a word between blanks.
-/

namespace FlinkSql.Text

/-! ## Reading references -/

/-- A quoted name with what stands directly in front of it. -/
structure Reference where
  lead : String
  name : String
  deriving DecidableEq

/-- Whether a character belongs to what stands in front of a name. -/
def isLead (c : Char) : Bool := c.isAlphanum || c == '_' || c == '.'

/-- Where the reading of references stands. What has been read of a name and in front of it is kept with the last character
first. -/
inductive Place
  /-- Outside quotes. -/
  | outside (lead : List Char)
  /-- In a quoted name. -/
  | name (lead read : List Char)
  /-- In a string literal. -/
  | literal
  deriving DecidableEq

namespace Place

/-- The place behind a character. -/
def next : Place → Char → Place
  | .outside lead, c =>
    if c = backtick then .name lead []
    else if c = singleQuote then .literal
    else if isLead c then .outside (c :: lead)
    else .outside []
  | .name lead read, c => if c = backtick then .outside [] else .name lead (c :: read)
  | .literal, c => if c = singleQuote then .outside [] else .literal

/-- The reference that ends with a character. -/
def reference? : Place → Char → Option Reference
  | .name lead read, c =>
    if c = backtick then some ⟨String.ofList lead.reverse, String.ofList read.reverse⟩ else none
  | _, _ => none

/-- The place behind a text. -/
def after (a : Place) (s : List Char) : Place := s.foldl next a

/-- The references in a text. -/
def found : Place → List Char → List Reference
  | _, [] => []
  | a, c :: rest => (a.reference? c).toList ++ found (a.next c) rest

theorem after_append (a : Place) (s t : List Char) : a.after (s ++ t) = (a.after s).after t := List.foldl_append

/-- What is found in a text behind another comes behind what was found before. -/
theorem found_append (a : Place) (s t : List Char) : a.found (s ++ t) = a.found s ++ (a.after s).found t := by
  induction s generalizing a with
  | nil => rfl
  | cons c s ih =>
    have hafter : a.after (c :: s) = (a.next c).after s := rfl
    rw [List.cons_append, found, found, ih, hafter, List.append_assoc]

end Place

/-- The references in a text that begins outside quotes. -/
def references (text : String) : List Reference := (Place.outside []).found text.toList

/-! ## What a piece of a text refers to -/

/-- Reading a piece leads from `a` to `b`, and the references in it are in `R`. -/
structure Cites (R : Reference → Prop) (a : Place) (s : List Char) (b : Place) : Prop where
  place : a.after s = b
  cited : ∀ r ∈ a.found s, R r

variable {R : Reference → Prop}

theorem Cites.nil (a : Place) : Cites R a [] a := ⟨rfl, fun _ h => absurd h List.not_mem_nil⟩

/-- A piece followed by another one. -/
theorem Cites.append {a b c : Place} {s t : List Char} (h : Cites R a s b) (h' : Cites R b t c) : Cites R a (s ++ t) c := by
  refine ⟨?_, ?_⟩
  · rw [Place.after_append, h.place, h'.place]
  · rw [Place.found_append, h.place]
    exact List.forall_mem_append.mpr ⟨h.cited, h'.cited⟩

/-- A character that ends no reference. -/
theorem Cites.cons {a b d : Place} {c : Char} {s : List Char} (hc : a.reference? c = none) (hnext : a.next c = b)
    (h : Cites R b s d) : Cites R a (c :: s) d := by
  subst hnext
  refine ⟨h.place, ?_⟩
  rw [Place.found, hc]
  exact h.cited

/-- A text that is read from outside quotes back to outside quotes. -/
def Citing (R : Reference → Prop) (s : String) : Prop := ∃ lead, Cites R (.outside []) s.toList (.outside lead)

/-- A text behind which a reference may stand: nothing is in front of what follows. -/
def Ready (R : Reference → Prop) (s : String) : Prop := Cites R (.outside []) s.toList (.outside [])

/-- What a text refers to is in `R`. -/
theorem Citing.references {s : String} (h : Citing R s) : ∀ r ∈ references s, R r := by
  obtain ⟨_, h⟩ := h
  exact h.cited

/-- A text that is ready for any place cites from there. -/
theorem Ready.citing {s : String} (h : Ready R s) : Citing R s := ⟨[], h⟩

theorem Ready.append {s t : String} (h : Ready R s) (ht : Ready R t) : Ready R (s ++ t) := by
  rw [Ready, String.toList_append]
  exact Cites.append h ht

/-- A citing text behind a ready one. -/
theorem Ready.then {s t : String} (h : Ready R s) (ht : Citing R t) : Citing R (s ++ t) := by
  obtain ⟨lead, ht⟩ := ht
  rw [Citing, String.toList_append]
  exact ⟨lead, Cites.append h ht⟩

/-! ## Texts without quotes -/

/-- Whether a character opens neither a name nor a string literal. -/
def isSilent (c : Char) : Bool := !isQuote c

/-- A text that refers to nothing. -/
def Silent (s : String) : Prop := ∀ c ∈ s.toList, isSilent c = true

instance (s : String) : Decidable (Silent s) := List.decidableBAll (fun c => isSilent c = true) s.toList

/-- A silent text behind which nothing is in front of what follows. -/
def isParting (s : String) : Bool := s.toList.all isSilent && s.toList.getLast?.any fun c => !isLead c

/-- A silent character goes on with what stands in front of a name, or ends it. -/
theorem next_of_silent {c : Char} (h : isSilent c = true) (lead : List Char) :
    (Place.outside lead).next c = if isLead c then .outside (c :: lead) else .outside [] := by
  simp only [isSilent, isQuote, Bool.not_eq_true', Bool.or_eq_false_iff, beq_eq_false_iff_ne] at h
  rw [Place.next, if_neg h.2, if_neg h.1]

/-- A character without quotes stays outside them. -/
theorem exists_next_of_silent {c : Char} (h : isSilent c = true) (lead : List Char) :
    ∃ lead', (Place.outside lead).next c = .outside lead' := by
  rw [next_of_silent h]
  split
  · exact ⟨_, rfl⟩
  · exact ⟨_, rfl⟩

/-- Without quotes the reading stays outside them and finds nothing. -/
theorem cites_of_silent {s : List Char} (h : ∀ c ∈ s, isSilent c = true) (lead : List Char) :
    ∃ lead', Cites R (.outside lead) s (.outside lead') := by
  induction s generalizing lead with
  | nil => exact ⟨lead, .nil _⟩
  | cons c s ih =>
    obtain ⟨hc, hrest⟩ := List.forall_mem_cons.mp h
    obtain ⟨lead₁, hnext⟩ := exists_next_of_silent hc lead
    obtain ⟨lead₂, hs⟩ := ih hrest lead₁
    exact ⟨lead₂, .cons rfl hnext hs⟩

/-- A character that is in front of nothing parts what stands before it from what stands behind it. -/
theorem cites_of_parting {s : String} (h : isParting s = true) (lead : List Char) :
    Cites R (.outside lead) s.toList (.outside []) := by
  rw [isParting, Bool.and_eq_true, List.all_eq_true, Option.any_eq_true] at h
  obtain ⟨hsilent, c, hlast, hc⟩ := h
  obtain ⟨before, hs⟩ := List.getLast?_eq_some_iff.mp hlast
  rw [hs] at hsilent ⊢
  obtain ⟨hbefore, hlast⟩ := List.forall_mem_append.mp hsilent
  obtain ⟨lead₁, hcites⟩ := cites_of_silent (R := R) hbefore lead
  have hnext : (Place.outside lead₁).next c = .outside [] := by
    rw [next_of_silent (hlast c List.mem_cons_self), if_neg (by simpa using hc)]
  exact hcites.append (.cons rfl hnext (.nil _))

/-- A silent text cites nothing. -/
theorem Silent.citing {s : String} (h : Silent s) : Citing R s := cites_of_silent h []

/-- A text that parts what stands around it is ready. -/
theorem ready_of_parting {s : String} (h : isParting s = true) : Ready R s := cites_of_parting h []

/-- A citing text and what parts it from the next one. -/
theorem Citing.part {s t : String} (h : Citing R s) (ht : isParting t = true) : Ready R (s ++ t) := by
  obtain ⟨lead, h⟩ := h
  rw [Ready, String.toList_append]
  exact h.append (cites_of_parting ht lead)

/-- A citing text behind what parts it from what stands before it. -/
theorem Citing.behind {s t : String} (h : Citing R t) (hs : isParting s = true) : Citing R (s ++ t) :=
  (ready_of_parting hs).then h

/-- Two citing texts with something between them that parts them. -/
theorem Citing.parted {s t separator : String} (h : Citing R s) (hseparator : isParting separator = true) (ht : Citing R t) :
    Citing R (s ++ separator ++ t) := (h.part hseparator).then ht

/-- A text without quotes behind a citing one. -/
theorem Citing.close {s t : String} (h : Citing R s) (ht : Silent t) : Citing R (s ++ t) := by
  obtain ⟨lead, h⟩ := h
  obtain ⟨lead', ht⟩ := cites_of_silent (R := R) ht lead
  rw [Citing, String.toList_append]
  exact ⟨lead', h.append ht⟩

/-- Citing texts with something between them that parts them. -/
theorem Citing.intercalate {separator : String} {texts : List String} (h : isParting separator = true)
    (ht : ∀ t ∈ texts, Citing R t) : Citing R (separator.intercalate texts) := by
  induction texts with
  | nil => exact ⟨[], .nil _⟩
  | cons t rest ih =>
    obtain ⟨hhead, hrest⟩ := List.forall_mem_cons.mp ht
    cases rest with
    | nil =>
      rw [String.intercalate_singleton]
      exact hhead
    | cons u rest =>
      rw [String.intercalate_cons_cons]
      exact hhead.parted h (ih hrest)

/-- A text without marks is silent. -/
theorem silent_of_unmarked {s : String} (h : Unmarked s.toList) : Silent s := by
  intro c hc
  have hmark := h c hc
  simp only [marks, List.mem_cons, List.not_mem_nil, or_false, not_or] at hmark
  simp [isSilent, isQuote, hmark.1, hmark.2.1]

/-! ## String literals -/

/-- A text that stays in the string literal in which it stands. -/
def Stays (s : List Char) : Prop := ∀ R, Cites R .literal s .literal

theorem Stays.append {s t : List Char} (hs : Stays s) (ht : Stays t) : Stays (s ++ t) := fun R => (hs R).append (ht R)

/-- A text without quotes stays in the string. -/
theorem stays_of_not_mem {s : List Char} (h : singleQuote ∉ s) : Stays s := by
  intro R
  induction s with
  | nil => exact .nil _
  | cons c s ih =>
    obtain ⟨hc, hrest⟩ := not_or.mp (List.mem_cons.not.mp h)
    have hnext : Place.literal.next c = .literal := if_neg (Ne.symm hc)
    exact .cons rfl hnext (ih hrest)

/-- A doubled quote ends the string literal and opens it again. -/
theorem stays_quotes : Stays [singleQuote, singleQuote] := fun _ => .cons rfl rfl (.cons rfl rfl (.nil _))

/-- A text stays when what is written for each of its characters does. -/
theorem stays_flatMap {f : Char → List Char} (h : ∀ c, Stays (f c)) (s : List Char) : Stays (s.flatMap f) := by
  induction s with
  | nil => exact fun _ => .nil _
  | cons c s ih =>
    rw [List.flatMap_cons]
    exact (h c).append ih

/-- A text with all its quotes doubled stays in the string. -/
theorem stays_doubled (s : List Char) : Stays (doubled singleQuote s) := by
  refine stays_flatMap (fun c => ?_) s
  split
  · exact stays_quotes
  · rename_i hc
    exact stays_of_not_mem (List.mem_singleton.not.mpr (Ne.symm hc))

/-- A string literal, with fixed words in front of the opening quote and behind the closing one. -/
theorem Stays.between {s : String} (h : Stays s.toList) {opening closing : String} {lead lead' : List Char}
    (hopen : Cites R (.outside lead) opening.toList .literal) (hclose : Cites R .literal closing.toList (.outside lead')) :
    Cites R (.outside lead) (opening ++ s ++ closing).toList (.outside lead') := by
  rw [String.toList_append, String.toList_append]
  exact (hopen.append (h R)).append hclose

/-- A string literal refers to nothing, whatever its text is. -/
theorem ready_quotedString (s : String) : Ready R (quotedString s) := by
  rw [Ready, quotedString, quoted, String.toList_ofList]
  exact .append (.cons rfl rfl (stays_doubled _ R)) (.cons rfl rfl (.nil _))

/-! ## Columns -/

/-- What stands in front of a name is kept. -/
theorem after_lead {s : List Char} (h : ∀ c ∈ s, isLead c = true) (lead : List Char) :
    Cites R (.outside lead) s (.outside (s.reverse ++ lead)) := by
  have hquote : ∀ c, isLead c = true → isSilent c = true := by
    intro c hc
    rw [isSilent, Bool.not_eq_true', isQuote, Bool.or_eq_false_iff, beq_eq_false_iff_ne, beq_eq_false_iff_ne]
    constructor
    · rintro rfl
      exact absurd hc (by decide)
    · rintro rfl
      exact absurd hc (by decide)
  induction s generalizing lead with
  | nil => exact .nil _
  | cons c s ih =>
    obtain ⟨hc, hrest⟩ := List.forall_mem_cons.mp h
    have hnext : (Place.outside lead).next c = .outside (c :: lead) := by
      rw [next_of_silent (hquote c hc), if_pos hc]
    rw [List.reverse_cons, List.append_assoc]
    exact .cons rfl hnext (ih hrest (c :: lead))

/-- What is read of a name is kept. -/
theorem after_name {s : List Char} (h : backtick ∉ s) (lead read : List Char) :
    Cites R (.name lead read) s (.name lead (s.reverse ++ read)) := by
  induction s generalizing read with
  | nil => exact .nil _
  | cons c s ih =>
    obtain ⟨hc, hrest⟩ := not_or.mp (List.mem_cons.not.mp h)
    have hnext : (Place.name lead read).next c = .name lead (c :: read) := if_neg (Ne.symm hc)
    have hopen : (Place.name lead read).reference? c = none := if_neg (Ne.symm hc)
    rw [List.reverse_cons, List.append_assoc]
    exact .cons hopen hnext (ih hrest (c :: read))

/-- A quoted column behind its source is one reference. -/
theorem ready_column {source name : String} (hsource : ∀ c ∈ source.toList, isLead c = true)
    (h : R ⟨source ++ ".", Name.column name⟩) : Ready R (source ++ "." ++ Name.quotedColumn name) := by
  have hfree : backtick ∉ (Name.column name).toList := fun hmem => absurd (Name.isPlain_of_mem_column hmem) (by decide)
  have hlead : ∀ c ∈ (source ++ ".").toList, isLead c = true := by
    rw [String.toList_append]
    exact List.forall_mem_append.mpr ⟨hsource, List.forall_mem_singleton.mpr rfl⟩
  have hclose : Cites R (.name ((source ++ ".").toList.reverse ++ []) ((Name.column name).toList.reverse ++ [])) [backtick]
      (.outside []) := by
    refine ⟨rfl, ?_⟩
    have hfound : (Place.name ((source ++ ".").toList.reverse ++ []) ((Name.column name).toList.reverse ++ [])).found [backtick] =
        [⟨source ++ ".", Name.column name⟩] := by
      simp [Place.found, Place.reference?]
    rw [hfound]
    exact List.forall_mem_singleton.mpr h
  rw [Ready, String.toList_append, Name.toList_quotedColumn]
  exact (after_lead hlead []).append (.cons rfl rfl ((after_name hfree _ []).append hclose))

end FlinkSql.Text
