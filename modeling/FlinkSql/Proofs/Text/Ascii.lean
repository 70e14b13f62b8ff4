import FlinkSql.Function.Like
import FlinkSql.Proofs.Text.Exposed

/-!
# Texts that are ASCII outside strings

Between single quotes a statement may hold any character; elsewhere Flink expects ASCII. Backticks quote a name, and what stands
between them counts as outside strings. `readAscii` finds out in one pass: it remembers the region, and refuses a character
that is neither in a string nor ASCII. An `AsciiPiece` ends outside quoted regions, so pieces one after the other are one.

Conversely, what is outside strings in a part that a text exposes is so in the whole.
-/

namespace FlinkSql.Text

/-- Whether the character is an ASCII character. -/
def isAscii (c : Char) : Bool := c.toNat < 128

/-- A text with no character outside ASCII but in strings. -/
def AsciiOutsideStrings (text : String) : Prop :=
  ∀ front c back, text.toList = front ++ c :: back → regionAfter none front ≠ some singleQuote → isAscii c = true

/-! ## Reading -/

/-- Reads a character; outside strings, only an ASCII character. -/
def nextAscii (region : Option Char) (c : Char) : Option (Option Char) :=
  if region = some singleQuote ∨ isAscii c = true then some (nextRegion region c) else none

/-- Reads a text. -/
def readAscii (region : Option Char) (s : List Char) : Option (Option Char) := s.foldlM nextAscii region

theorem readAscii_cons (region : Option Char) (c : Char) (s : List Char) :
    readAscii region (c :: s) = (nextAscii region c).bind fun region => readAscii region s :=
  List.foldlM_cons

theorem readAscii_append (region : Option Char) (s t : List Char) :
    readAscii region (s ++ t) = (readAscii region s).bind fun region => readAscii region t :=
  List.foldlM_append

/-- Texts that each leave the reading where it is do so one after the other. -/
theorem readAscii_flatMap {α : Type} {region : Option Char} {f : α → List Char} {l : List α}
    (h : ∀ x ∈ l, readAscii region (f x) = some region) : readAscii region (l.flatMap f) = some region := by
  induction l with
  | nil => rfl
  | cons x l ih =>
    obtain ⟨hhead, hrest⟩ := List.forall_mem_cons.mp h
    rw [List.flatMap_cons, readAscii_append, hhead]
    exact ih hrest

/-- What is read has no character outside ASCII but in strings. -/
theorem readAscii_sound {region region' : Option Char} {s : List Char} (h : readAscii region s = some region') {front : List Char}
    {c : Char} {back : List Char} (hsplit : s = front ++ c :: back) (houtside : regionAfter region front ≠ some singleQuote) :
    isAscii c = true := by
  induction front generalizing region s with
  | nil =>
    rw [hsplit, List.nil_append, readAscii_cons, nextAscii] at h
    split at h
    · rename_i hc
      exact hc.resolve_left houtside
    · cases h
  | cons d front ih =>
    rw [hsplit, List.cons_append, readAscii_cons, nextAscii] at h
    split at h
    · exact ih h rfl houtside
    · cases h

/-- Reading the text leads from a region to another, past ASCII characters only where it is outside strings. -/
def ReadsAscii (region : Option Char) (text : String) (region' : Option Char) : Prop :=
  readAscii region text.toList = some region'

theorem ReadsAscii.append {a b c : Option Char} {s t : String} (hs : ReadsAscii a s b) (ht : ReadsAscii b t c) :
    ReadsAscii a (s ++ t) c := by
  rw [ReadsAscii, String.toList_append, readAscii_append, show _ = _ from hs]
  exact ht

/-! ## Pieces -/

/-- A text that is ASCII outside strings and ends outside quoted regions. -/
def AsciiPiece (text : String) : Prop := ReadsAscii none text none

instance (text : String) : Decidable (AsciiPiece text) := inferInstanceAs (Decidable (readAscii none text.toList = some none))

theorem AsciiPiece.append {s t : String} (hs : AsciiPiece s) (ht : AsciiPiece t) : AsciiPiece (s ++ t) :=
  ReadsAscii.append hs ht

/-- A piece has no character outside ASCII but in strings. -/
theorem AsciiPiece.asciiOutsideStrings {text : String} (h : AsciiPiece text) : AsciiOutsideStrings text :=
  fun _ _ _ hsplit houtside => readAscii_sound h hsplit houtside

/-- Pieces with a piece between any two. -/
theorem AsciiPiece.intercalate {separator : String} {texts : List String} (h : AsciiPiece separator)
    (ht : ∀ t ∈ texts, AsciiPiece t) : AsciiPiece (separator.intercalate texts) := by
  induction texts with
  | nil => rfl
  | cons t rest ih =>
    obtain ⟨hhead, hrest⟩ := List.forall_mem_cons.mp ht
    cases rest with
    | nil =>
      rw [String.intercalate_singleton]
      exact hhead
    | cons u rest =>
      rw [String.intercalate_cons_cons]
      exact (hhead.append h).append (ih hrest)

/-- An ASCII character that is no quote. -/
def isAsciiUnquoted (c : Char) : Bool := isAscii c && !isQuote c

/-- Such characters leave the reading where it is. -/
theorem readAscii_of_unquoted {s : List Char} (h : ∀ c ∈ s, isAsciiUnquoted c = true) : readAscii none s = some none := by
  induction s with
  | nil => rfl
  | cons c s ih =>
    obtain ⟨hc, hrest⟩ := List.forall_mem_cons.mp h
    rw [isAsciiUnquoted, Bool.and_eq_true, Bool.not_eq_true'] at hc
    have hregion : nextRegion none c = none := if_neg (Bool.eq_false_iff.mp hc.2)
    rw [readAscii_cons, nextAscii, if_pos (Or.inr hc.1), hregion]
    exact ih hrest

theorem asciiPiece_of_unquoted {text : String} (h : ∀ c ∈ text.toList, isAsciiUnquoted c = true) : AsciiPiece text :=
  readAscii_of_unquoted h

/-- ASCII characters between backticks, none of which is one. -/
theorem readAscii_backticks {s : List Char} (h : ∀ c ∈ s, isAscii c = true ∧ c ≠ backtick) :
    readAscii none (backtick :: s ++ [backtick]) = some none := by
  have hinside : readAscii (some backtick) s = some (some backtick) := by
    induction s with
    | nil => rfl
    | cons c s ih =>
      obtain ⟨⟨hc, hne⟩, hrest⟩ := List.forall_mem_cons.mp h
      have hregion : nextRegion (some backtick) c = some backtick := if_neg hne
      rw [readAscii_cons, nextAscii, if_pos (Or.inr hc), hregion]
      exact ih hrest
  have hopen : nextAscii none backtick = some (some backtick) := rfl
  rw [List.cons_append, readAscii_cons, hopen, Option.bind_some, readAscii_append, hinside]
  rfl

/-! ## Strings -/

/-- A text that stays in the string, or comes back into it at once. -/
def StringPiece (s : List Char) : Prop := readAscii (some singleQuote) s = some (some singleQuote)

/-- Any character but the quote stays in the string. -/
theorem stringPiece_singleton {c : Char} (h : c ≠ singleQuote) : StringPiece [c] := by
  have hregion : nextRegion (some singleQuote) c = some singleQuote := if_neg h
  rw [StringPiece, readAscii_cons, nextAscii, if_pos (Or.inl rfl), hregion]
  rfl

theorem stringPiece_of_not_mem {s : List Char} (h : singleQuote ∉ s) : StringPiece s := by
  induction s with
  | nil => rfl
  | cons c s ih =>
    obtain ⟨hne, hrest⟩ := not_or.mp (List.mem_cons.not.mp h)
    rw [StringPiece, ← List.singleton_append, readAscii_append, show _ = _ from stringPiece_singleton (Ne.symm hne)]
    exact ih hrest

/-- A doubled quote ends the string and opens it again. -/
theorem stringPiece_doubled (s : List Char) : StringPiece (doubled singleQuote s) := by
  refine readAscii_flatMap fun c _ => ?_
  split
  · rfl
  · rename_i hc
    exact stringPiece_singleton hc

/-- A literal pattern is escaped so that it stays in the string. -/
theorem stringPiece_escaped (pattern : List Char) : StringPiece (Like.escaped pattern) := by
  refine readAscii_flatMap fun c _ => ?_
  unfold Like.escapedChar
  split_ifs with hwild hquote
  · rcases hwild with rfl | rfl | rfl <;> rfl
  · rfl
  · exact stringPiece_singleton hquote

/-- A string is a piece, whatever text it holds. -/
theorem asciiPiece_quotedString (s : String) : AsciiPiece (quotedString s) := by
  have hopen : nextAscii none singleQuote = some (some singleQuote) := rfl
  rw [AsciiPiece, ReadsAscii, quotedString, quoted, String.toList_ofList, List.cons_append, readAscii_cons, hopen,
    Option.bind_some, readAscii_append, show _ = _ from stringPiece_doubled s.toList]
  rfl

/-! ## Parts -/

/-- Where a text is ASCII outside strings, so is a part that it exposes. -/
theorem AsciiOutsideStrings.of_exposes {part text : String} (h : AsciiOutsideStrings text) (hpart : Exposes part text) :
    AsciiOutsideStrings part := by
  obtain ⟨before, after, htext, hbefore⟩ := hpart
  intro front c back hsplit houtside
  refine h (before ++ front) c (back ++ after) ?_ ?_
  · rw [htext, hsplit, List.append_assoc, List.append_assoc, List.append_assoc, List.cons_append]
  · rw [regionAfter_append, hbefore]
    exact houtside

/-- A text without quotes is outside strings all the way. -/
theorem AsciiOutsideStrings.of_unquoted {text : String} (h : AsciiOutsideStrings text) (hquote : ∀ c ∈ text.toList, isQuote c = false) :
    ∀ c ∈ text.toList, isAscii c = true := by
  intro c hc
  obtain ⟨front, back, hsplit⟩ := List.append_of_mem hc
  have hfront : ∀ s : List Char, (∀ c ∈ s, isQuote c = false) → regionAfter none s = none := by
    intro s hs
    induction s with
    | nil => rfl
    | cons d s ih =>
      obtain ⟨hd, hrest⟩ := List.forall_mem_cons.mp hs
      have hregion : nextRegion none d = none := if_neg (Bool.eq_false_iff.mp hd)
      rw [regionAfter, List.foldl_cons, hregion]
      exact ih hrest
  refine h front c back hsplit ?_
  rw [hfront front fun d hd => hquote d (hsplit ▸ List.mem_append_left _ hd)]
  exact Option.some_ne_none _ |>.symm

end FlinkSql.Text
