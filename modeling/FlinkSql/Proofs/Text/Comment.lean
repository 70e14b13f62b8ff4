import FlinkSql.Proofs.Text.Unmarked
import Mathlib.Data.List.Forall2

/-!
# Texts without comments

Outside quoted regions, two minus signs or a slash and an asterisk open a comment, and nothing behind them is read any more. A
text is `CommentFree` when no comment begins in it. `Sight` finds that out in one pass: it remembers of the text in front only
the region and a character that could open a comment with the next one.

The pieces of an expression are settled: a piece is calm, so that what follows it is read as if nothing stood in front, or a
comment begins in it. A text composed of settled parts and calm pieces is settled too, and calm when its parts are.
-/

namespace FlinkSql.Text

/-- Whether the text opens a comment with its first two characters. -/
def OpensComment (s : List Char) : Prop := ['-', '-'] <+: s ∨ ['/', '*'] <+: s

/-- A text in which no comment begins outside quoted regions. -/
def CommentFree (text : String) : Prop :=
  ∀ front rest, text.toList = front ++ rest → regionAfter none front = none → ¬OpensComment rest

/-! ## Comments behind a region -/

/-- No comment begins in the text outside quoted regions, where it starts in the given region. -/
def FreeIn : Option Char → List Char → Prop
  | _, [] => True
  | region, c :: s => (region = none → ¬OpensComment (c :: s)) ∧ FreeIn (nextRegion region c) s

/-- Reading a text from a region meets no comment exactly if none opens where it is outside quoted regions. -/
theorem freeIn_iff {region : Option Char} {s : List Char} :
    FreeIn region s ↔ ∀ front rest, s = front ++ rest → regionAfter region front = none → ¬OpensComment rest := by
  induction s generalizing region with
  | nil =>
    refine ⟨fun _ front rest hsplit _ => ?_, fun _ => trivial⟩
    obtain ⟨-, rfl⟩ := List.append_eq_nil_iff.mp hsplit.symm
    simp [OpensComment]
  | cons c s ih =>
    rw [FreeIn, ih]
    constructor
    · rintro ⟨hhead, htail⟩ front rest hsplit hregion
      cases front with
      | nil =>
        cases hsplit
        exact hhead hregion
      | cons d front =>
        obtain ⟨rfl, hrest⟩ := List.cons.inj hsplit
        exact htail front rest hrest hregion
    · intro h
      refine ⟨fun hregion => h [] (c :: s) rfl hregion, fun front rest hsplit hregion => ?_⟩
      exact h (c :: front) rest (congrArg (c :: ·) hsplit) hregion

/-- A text is free of comments if it is so from outside quoted regions. -/
theorem commentFree_iff {text : String} : CommentFree text ↔ FreeIn none text.toList := freeIn_iff.symm

/-! ## Finding comments -/

/-- What is remembered of the text in front. -/
inductive Sight
  /-- Outside quoted regions, with nothing in front that could open a comment. -/
  | plain
  /-- Behind a minus sign. -/
  | minus
  /-- Behind a slash. -/
  | slash
  /-- Inside a quoted region. -/
  | inside (quote : Char)
  deriving DecidableEq

namespace Sight

/-- The region. -/
def region : Sight → Option Char
  | .inside q => some q
  | _ => none

/-- The character that could open a comment. -/
def pending : Sight → List Char
  | .minus => ['-']
  | .slash => ['/']
  | _ => []

/-- Behind a character outside quoted regions. -/
def behind (c : Char) : Sight :=
  if isQuote c then .inside c else if c = '-' then .minus else if c = '/' then .slash else .plain

/-- Reads a character; refuses the second one of a mark that opens a comment. -/
def next : Sight → Char → Option Sight
  | .plain, c => some (behind c)
  | .minus, c => if c = '-' then none else some (behind c)
  | .slash, c => if c = '*' then none else some (behind c)
  | .inside q, c => some (if c = q then .plain else .inside q)

/-- Reads a text. -/
def read (sight : Sight) (s : List Char) : Option Sight := s.foldlM next sight

theorem read_append (sight : Sight) (s t : List Char) :
    sight.read (s ++ t) = (sight.read s).bind fun sight => sight.read t :=
  List.foldlM_append

theorem read_cons (sight : Sight) (c : Char) (s : List Char) :
    sight.read (c :: s) = (sight.next c).bind fun sight => sight.read s :=
  List.foldlM_cons

/-- Behind a character that opens no comment with what follows, the text is read from there. -/
theorem freeIn_behind (c : Char) (s : List Char) : FreeIn (behind c).region ((behind c).pending ++ s) ↔ FreeIn none (c :: s) := by
  unfold behind
  split_ifs with hquote hminus hslash
  · have hopens : ¬OpensComment (c :: s) := by
      rintro (h | h) <;> obtain ⟨rfl, -⟩ := List.cons_prefix_cons.mp h <;> exact absurd hquote (by decide)
    have hregion : nextRegion none c = some c := if_pos hquote
    simp only [region, pending, List.nil_append, FreeIn, hregion]
    exact ⟨fun h => ⟨fun _ => hopens, h⟩, fun h => h.2⟩
  · rw [hminus]
    rfl
  · rw [hslash]
    rfl
  · have hopens : ¬OpensComment (c :: s) := by
      rintro (h | h)
      · exact hminus (List.cons_prefix_cons.mp h).1.symm
      · exact hslash (List.cons_prefix_cons.mp h).1.symm
    have hregion : nextRegion none c = none := if_neg hquote
    simp only [region, pending, List.nil_append, FreeIn, hregion]
    exact ⟨fun h => ⟨fun _ => hopens, h⟩, fun h => h.2⟩

/-- What is remembered opens a comment with the next character, or the text is read on without it. -/
theorem freeIn_pending {lead c d : Char} (hlead : [lead, d] = ['-', '-'] ∨ [lead, d] = ['/', '*']) (s : List Char) :
    FreeIn none (lead :: c :: s) ↔ c ≠ d ∧ FreeIn none (c :: s) := by
  have hregion : nextRegion none lead = none := by
    rcases hlead with h | h <;> cases h <;> rfl
  have hopens : OpensComment (lead :: c :: s) ↔ c = d := by
    rcases hlead with h | h <;> cases h <;> simp [OpensComment, List.cons_prefix_cons, eq_comm]
  rw [FreeIn, hregion, hopens]
  simp

/-- The text is read to its end when no comment begins in it, or with what is remembered. -/
theorem isSome_read (sight : Sight) (s : List Char) : (sight.read s).isSome ↔ FreeIn sight.region (sight.pending ++ s) := by
  induction s generalizing sight with
  | nil =>
    cases sight with
    | inside q => simp [read, pending, FreeIn]
    | _ => simp [read, pending, FreeIn, OpensComment, List.cons_prefix_cons]
  | cons c s ih =>
    rw [read_cons]
    cases sight with
    | plain =>
      rw [next, Option.bind_some, ih, freeIn_behind]
      rfl
    | minus =>
      rw [show minus.pending ++ c :: s = '-' :: c :: s from rfl, show minus.region = none from rfl,
        freeIn_pending (.inl rfl), next]
      split_ifs with hc
      · simp [hc]
      · rw [Option.bind_some, ih, freeIn_behind]
        simp [hc]
    | slash =>
      rw [show slash.pending ++ c :: s = '/' :: c :: s from rfl, show slash.region = none from rfl,
        freeIn_pending (.inr rfl), next]
      split_ifs with hc
      · simp [hc]
      · rw [Option.bind_some, ih, freeIn_behind]
        simp [hc]
    | inside q =>
      have hregion : (if c = q then plain else inside q).region = nextRegion (some q) c := by
        rw [nextRegion]
        split_ifs <;> rfl
      have hpending : (if c = q then plain else inside q).pending = [] := by split_ifs <;> rfl
      rw [next, Option.bind_some, ih, hregion, hpending]
      simp [region, pending, FreeIn]

end Sight

/-! ## Calm texts -/

/-- A text in which no comment begins, and none with what follows it. -/
def Calm (text : String) : Prop := Sight.plain.read text.toList = some .plain

instance (text : String) : Decidable (Calm text) := inferInstanceAs (Decidable (Sight.plain.read text.toList = some .plain))

/-- A text that is calm or in which a comment begins. -/
def Settled (text : String) : Prop := Calm text ∨ Sight.plain.read text.toList = none

theorem Calm.settled {s : String} (h : Calm s) : Settled s := Or.inl h

/-- A settled text is free of comments when it is calm. -/
theorem Settled.commentFree_iff {s : String} (h : Settled s) : CommentFree s ↔ Calm s := by
  have hread : CommentFree s ↔ (Sight.plain.read s.toList).isSome := Text.commentFree_iff.trans (Sight.isSome_read .plain _).symm
  rw [hread]
  rcases h with hcalm | hnone
  · exact ⟨fun _ => hcalm, fun _ => by rw [show _ = _ from hcalm]; rfl⟩
  · rw [Calm, hnone]
    exact ⟨nofun, nofun⟩

/-- What follows a settled text is read as if nothing stood in front. -/
theorem Settled.calm_append {s : String} (h : Settled s) (t : String) : Calm (s ++ t) ↔ Calm s ∧ Calm t := by
  rw [Calm, String.toList_append, Sight.read_append]
  rcases h with hcalm | hnone
  · rw [show _ = _ from hcalm]
    exact ⟨fun ht => ⟨hcalm, ht⟩, fun ht => ht.2⟩
  · rw [hnone, Calm, hnone]
    exact ⟨nofun, fun h => nomatch h.1⟩

theorem Calm.append {s t : String} (hs : Calm s) (ht : Calm t) : Calm (s ++ t) :=
  (hs.settled.calm_append t).mpr ⟨hs, ht⟩

theorem Settled.append {s t : String} (hs : Settled s) (ht : Settled t) : Settled (s ++ t) := by
  rcases hs with hcalm | hnone
  · rcases ht with ht | ht
    · exact Or.inl (hcalm.append ht)
    · refine Or.inr ?_
      rw [String.toList_append, Sight.read_append, show _ = _ from hcalm]
      exact ht
  · refine Or.inr ?_
    rw [String.toList_append, Sight.read_append, hnone]
    rfl

/-- The text begins with a minus sign. -/
def BeginsWithMinus (text : String) : Prop := text.toList.head? = some '-'

/-- The text begins with another character. -/
def Unsigned (text : String) : Prop := ∃ c ∈ text.toList.head?, c ≠ '-'

/-- An unsigned text does not begin with a minus sign. -/
theorem Unsigned.not_beginsWithMinus {s : String} (h : Unsigned s) : ¬BeginsWithMinus s := by
  obtain ⟨c, hc, hne⟩ := h
  intro hminus
  exact hne (Option.some.inj (hc.symm.trans hminus))

theorem Unsigned.append {s : String} (h : Unsigned s) (t : String) : Unsigned (s ++ t) := by
  obtain ⟨c, hc, hne⟩ := h
  refine ⟨c, ?_, hne⟩
  rw [String.toList_append, List.head?_append, hc]
  rfl

/-- A minus sign in front of a settled text opens a comment if the text begins with another one. -/
theorem Settled.minus {s : String} (h : Settled s) :
    Settled ("(-" ++ s ++ ")") ∧ (Calm ("(-" ++ s ++ ")") ↔ Calm s ∧ ¬BeginsWithMinus s) := by
  have hread : Sight.plain.read ("(-" ++ s ++ ")").toList = (Sight.minus.read s.toList).bind fun sight => sight.read [')'] := by
    rw [String.toList_append, String.toList_append, Sight.read_append, Sight.read_append]
    rfl
  rw [Settled, Calm, Calm, BeginsWithMinus, hread]
  cases hs : s.toList with
  | nil => exact ⟨Or.inl rfl, by simp [Sight.read], fun _ => rfl⟩
  | cons c rest =>
    have hsettled : Sight.plain.read (c :: rest) = some .plain ∨ Sight.plain.read (c :: rest) = none := hs ▸ h
    have hplain : Sight.plain.read (c :: rest) = (Sight.behind c).read rest := rfl
    have hclose : Sight.plain.read [')'] = some .plain := rfl
    rw [hplain] at hsettled ⊢
    rw [Sight.read_cons, Sight.next]
    split_ifs with hc
    · simp [hc]
    · rw [Option.bind_some]
      rcases hsettled with hrest | hrest <;> simp [hrest, hc, hclose]

/-! ## Calm pieces -/

/-- The characters that matter outside quoted regions. -/
def signals : List Char := [singleQuote, backtick, '-', '/']

/-- A text without such characters is calm. -/
theorem read_of_quiet {s : List Char} (h : ∀ c ∈ s, c ∉ signals) : Sight.plain.read s = some .plain := by
  induction s with
  | nil => rfl
  | cons c s ih =>
    obtain ⟨hc, hrest⟩ := List.forall_mem_cons.mp h
    simp only [signals, List.mem_cons, List.not_mem_nil, or_false, not_or] at hc
    obtain ⟨hsingle, hback, hminus, hslash⟩ := hc
    have hbehind : Sight.behind c = .plain := by
      simp [Sight.behind, isQuote, hsingle, hback, hminus, hslash]
    rw [Sight.read_cons, Sight.next, hbehind]
    exact ih hrest

/-- A class of characters that do not matter. -/
theorem calm_of_class {p : Char → Bool} (hp : signals.any p = false) {s : String} (h : ∀ c ∈ s.toList, p c = true) : Calm s :=
  read_of_quiet fun c hc hsignal => List.any_eq_false.mp hp c hsignal (h c hc)

/-- A written number is calm: a sign stands in front of a digit or a point. -/
theorem calm_of_numeral {s : String} (h : Number.Numeral s.toList) : Calm s := by
  have hmagnitude : ∀ {t : List Char}, Number.Magnitude t → ∀ c ∈ t, c ∉ signals := fun ht c hc hsignal =>
    List.any_eq_false.mp (show signals.any Number.isNumeric = false by decide) c hsignal (ht.numeric c hc)
  rw [Calm]
  generalize s.toList = chars at h
  cases h with
  | positive h => exact read_of_quiet (hmagnitude h)
  | @negative t h =>
    obtain ⟨c, rest, rfl⟩ := List.exists_cons_of_ne_nil h.nonempty
    have hc : c ≠ '-' := fun heq => hmagnitude h c List.mem_cons_self (by simp [heq, signals])
    have hread : Sight.plain.read (c :: rest) = some .plain := read_of_quiet (hmagnitude h)
    rw [Sight.read_cons, Sight.next, Option.bind_some] at hread
    have hminus : Sight.plain.next '-' = some .minus := rfl
    rw [Sight.read_cons, hminus, Option.bind_some, Sight.read_cons, Sight.next, if_neg hc]
    exact hread

/-! ## Quoted texts -/

/-- A text that stays in the region between single quotes, or comes back into it at once. -/
def StaysInside (s : List Char) : Prop := (Sight.inside singleQuote).read s = some (.inside singleQuote)

theorem StaysInside.append {s t : List Char} (hs : StaysInside s) (ht : StaysInside t) : StaysInside (s ++ t) := by
  rw [StaysInside, Sight.read_append, show _ = _ from hs]
  exact ht

/-- A text between single quotes is calm if it stays between them. -/
theorem StaysInside.calm {front middle back : String} (h : StaysInside middle.toList)
    (hfront : Sight.plain.read front.toList = some (.inside singleQuote))
    (hback : (Sight.inside singleQuote).read back.toList = some .plain) : Calm (front ++ middle ++ back) := by
  rw [Calm, String.toList_append, String.toList_append, Sight.read_append, Sight.read_append, hfront, Option.bind_some,
    show _ = _ from h]
  exact hback

/-- A text without the quote stays inside. -/
theorem read_inside {q : Char} {s : List Char} (h : q ∉ s) : (Sight.inside q).read s = some (.inside q) := by
  induction s with
  | nil => rfl
  | cons c s ih =>
    obtain ⟨hne, hrest⟩ := not_or.mp (List.mem_cons.not.mp h)
    rw [Sight.read_cons, Sight.next, if_neg (Ne.symm hne)]
    exact ih hrest

/-- A quoted text is calm, whatever the text is. -/
theorem calm_quoted {q : Char} (hq : isQuote q = true) (s : String) : Calm (quoted q s) := by
  have hbehind : Sight.behind q = .inside q := if_pos hq
  have hdoubled : ∀ t : List Char, (Sight.inside q).read (doubled q t) = some (.inside q) := by
    intro t
    induction t with
    | nil => rfl
    | cons c t ih =>
      have hcons : doubled q (c :: t) = (if c = q then [q, q] else [c]) ++ doubled q t := rfl
      -- a doubled quote ends the region and opens it again
      have hstep : (Sight.inside q).read (if c = q then [q, q] else [c]) = some (.inside q) := by
        split_ifs with hc
        · simp [Sight.read, Sight.next, hbehind]
        · simp [Sight.read, Sight.next, hc]
      rw [hcons, Sight.read_append, hstep]
      exact ih
  rw [Calm, quoted, String.toList_ofList, List.cons_append, Sight.read_cons, Sight.next, hbehind, Option.bind_some,
    Sight.read_append, hdoubled, Option.bind_some]
  simp [Sight.read, Sight.next]

/-! ## Composed texts -/

/-- A text made of the given parts, which stand between calm pieces. -/
structure Composed (parts : List String) (text : String) : Prop where
  settled : (∀ t ∈ parts, Settled t) → Settled text
  calm : (∀ t ∈ parts, Settled t) → (Calm text ↔ ∀ t ∈ parts, Calm t)

/-- A calm text is composed of no parts. -/
theorem Calm.composed {s : String} (h : Calm s) : Composed [] s :=
  ⟨fun _ => h.settled, fun _ => ⟨fun _ => List.forall_mem_nil _, fun _ => h⟩⟩

theorem composed_part (s : String) : Composed [s] s :=
  ⟨fun h => h s List.mem_cons_self, fun _ => List.forall_mem_singleton.symm⟩

/-- Composed texts one after the other are composed of the parts of both. -/
theorem Composed.append {a b : List String} {s t : String} (hs : Composed a s) (ht : Composed b t) :
    Composed (a ++ b) (s ++ t) := by
  refine ⟨fun h => ?_, fun h => ?_⟩
  · obtain ⟨ha, hb⟩ := List.forall_mem_append.mp h
    exact (hs.settled ha).append (ht.settled hb)
  · obtain ⟨ha, hb⟩ := List.forall_mem_append.mp h
    rw [(hs.settled ha).calm_append, hs.calm ha, ht.calm hb, List.forall_mem_append]

/-- A calm piece behind a text. -/
theorem Composed.then {a : List String} {s t : String} (hs : Composed a s) (ht : Calm t) : Composed a (s ++ t) :=
  List.append_nil a ▸ hs.append ht.composed

/-- Composed texts with a calm separator between them. -/
theorem composed_intercalate {separator : String} (h : Calm separator) {parts : List (List String)} {texts : List String}
    (ht : List.Forall₂ Composed parts texts) : Composed parts.flatten (separator.intercalate texts) := by
  induction ht with
  | nil => exact Calm.composed (s := "") rfl
  | @cons a s parts texts hhead hrest ih =>
    cases hrest with
    | nil =>
      rw [String.intercalate_singleton, List.flatten_singleton]
      exact hhead
    | cons =>
      rw [String.intercalate_cons_cons]
      exact (hhead.then h).append ih

end FlinkSql.Text
