import FlinkSql.Json.Value
import FlinkSql.Proofs.Json.Numeral
import Mathlib.Data.List.Forall2

/-!
# Cutting texts into tokens

What the machine that cuts a text makes of the pieces that are printed: numbers and words, quoted texts, and blocks of parts. A
number or a word ends only where another character stands, so what follows it has to be apart from it (`CutsOff`); every other piece
is cut whatever follows (`Cuts`).
-/

namespace FlinkSql.Json.Token

variable {s t : List Char} {a b tokens : List Token} {mode mode' : Mode} {c : Char}

/-! ## Cutting -/

/-- A character completes some tokens, and the rest is cut in the mode that it leads to. -/
theorem cut_cons (h : step mode c = some (tokens, mode')) (rest : List Char) :
    cut mode (c :: rest) = (cut mode' rest).map (tokens ++ ·) := by
  rw [cut, h]
  cases hrest : cut mode' rest <;> simp [hrest]

/-- A character that completes no token. -/
theorem cut_silent (h : step mode c = some ([], mode')) (rest : List Char) : cut mode (c :: rest) = cut mode' rest := by
  rw [cut_cons h]
  exact Option.map_id'

/-- A text that does not go on with a number or a word. -/
def Apart (s : List Char) : Prop := ∀ c ∈ s.head?, isNumeric c = false ∧ c.isLower = false

theorem apart_cons (hnumeric : isNumeric c = false) (hlower : c.isLower = false) (rest : List Char) : Apart (c :: rest) := by
  rintro _ ⟨⟩
  exact ⟨hnumeric, hlower⟩

/-- The text is cut into the tokens, whatever follows it. -/
def Cuts (s : List Char) (tokens : List Token) : Prop := ∀ rest, cut .between (s ++ rest) = (cut .between rest).map (tokens ++ ·)

/-- The text is cut into the tokens, if what follows it is apart from it. -/
def CutsOff (s : List Char) (tokens : List Token) : Prop :=
  ∀ rest, Apart rest → cut .between (s ++ rest) = (cut .between rest).map (tokens ++ ·)

/-- Two texts one after the other are cut one after the other. -/
theorem cut_append {rest : List Char} (hs : cut .between (s ++ (t ++ rest)) = (cut .between (t ++ rest)).map (a ++ ·))
    (ht : cut .between (t ++ rest) = (cut .between rest).map (b ++ ·)) :
    cut .between (s ++ t ++ rest) = (cut .between rest).map (a ++ b ++ ·) := by
  rw [List.append_assoc, hs, ht, Option.map_map]
  congr 1
  funext others
  exact (List.append_assoc a b others).symm

/-- If both are cut whatever follows, so is the whole. -/
theorem Cuts.append (hs : Cuts s a) (ht : Cuts t b) : Cuts (s ++ t) (a ++ b) := fun rest => cut_append (hs _) (ht rest)

/-- If what follows the second text has to be apart from it, that goes for the whole. -/
theorem Cuts.append_off (hs : Cuts s a) (ht : CutsOff t b) : CutsOff (s ++ t) (a ++ b) := fun rest hrest =>
  cut_append (hs _) (ht rest hrest)

/-- A text whose successor has to be apart may stand in front of one that is. -/
theorem CutsOff.append (hs : CutsOff s a) (ht : Cuts t b) (hapart : ∀ rest, Apart (t ++ rest)) : Cuts (s ++ t) (a ++ b) := fun rest =>
  cut_append (hs _ (hapart rest)) (ht rest)

/-- What is cut whatever follows is cut if that is apart. -/
theorem Cuts.off (h : Cuts s a) : CutsOff s a := fun rest _ => h rest

/-- A character that is a token by itself, or none. -/
theorem cuts_char (h : step .between c = some (tokens, .between)) : Cuts [c] tokens := cut_cons h

/-! ## Numbers and words in a text -/

/-- A mode in which a token goes on with some characters, and has its value when another one stands there. -/
structure Run (mode : List Char → Mode) (goesOn : Char → Bool) (value : List Char → Option Json) : Prop where
  on : ∀ l c, goesOn c = true → step (mode l) c = some ([], mode (c :: l))
  stop : ∀ l c, goesOn c = false → step (mode l) c = (value l).bind fun v => stepAfter (.scalar v) c
  finish : ∀ l, Token.finish (mode l) = (value l).map fun v => [.scalar v]

/-- A number goes on with the characters of numbers and is read from all of them. -/
theorem run_number : Run .number isNumeric fun l => Numeral.read? l.reverse where
  on l c h := by rw [step, if_pos h]
  stop l c h := by rw [step, if_neg (Bool.not_eq_true _ ▸ h)]
  finish _ := rfl

/-- A word goes on with small letters. -/
theorem run_word : Run .word Char.isLower wordValue? where
  on l c h := by rw [step, if_pos h]
  stop l c h := by rw [step, if_neg (Bool.not_eq_true _ ▸ h)]
  finish _ := rfl

/-- A token goes on to the first character that is not of its kind, and has the value of all that came before. -/
theorem Run.cut {mode : List Char → Mode} {goesOn : Char → Bool} {value : List Char → Option Json} (hrun : Run mode goesOn value)
    {l : List Char} {v : Json} (hs : ∀ c ∈ s, goesOn c = true) (hv : value (s.reverse ++ l) = some v) {rest : List Char}
    (hrest : ∀ c ∈ rest.head?, goesOn c = false) :
    cut (mode l) (s ++ rest) = (Token.cut .between rest).map ([.scalar v] ++ ·) := by
  induction s generalizing l with
  | nil =>
    have hvalue : value l = some v := hv
    cases rest with
    | nil =>
      rw [List.append_nil, Token.cut, hrun.finish, hvalue]
      rfl
    | cons c rest =>
      rw [List.nil_append, Token.cut, Token.cut, hrun.stop l c (hrest c rfl), hvalue, Option.bind_some, stepAfter, step]
      cases stepBetween c with
      | none => rfl
      | some done => cases hothers : Token.cut done.2 rest <;> simp [hothers]
  | cons c s ih =>
    obtain ⟨hc, hs⟩ := List.forall_mem_cons.mp hs
    rw [List.cons_append, cut_silent (hrun.on l c hc)]
    refine ih hs ?_
    rwa [List.reverse_cons, List.append_assoc] at hv

/-- A digit begins a number. -/
theorem step_between_of_isDigit (h : c.isDigit = true) : step .between c = some ([], .number [c]) := by
  have hne : ∀ d : Char, d.isDigit = false → c ≠ d := by
    rintro _ hd rfl
    exact Bool.false_ne_true (hd.symm.trans h)
  simp [step, stepBetween, h, hne ' ' rfl, hne '\t' rfl, hne '\n' rfl, hne '\r' rfl, hne '\x7b' rfl, hne '\x7d' rfl, hne '[' rfl,
    hne ']' rfl, hne ':' rfl, hne ',' rfl, hne '"' rfl]

/-- A number that is read from its text. -/
theorem cutsOff_number {v : Json} (h : Numeral.read? s = some v) : CutsOff s [.scalar v] := by
  obtain ⟨c, t, rfl, hbegin⟩ := Numeral.begins_of_read? h
  obtain ⟨n, hn, -⟩ := Option.bind_eq_some_iff.mp h
  obtain ⟨-, hnumeric⟩ := List.forall_mem_cons.mp (Numeral.numeric_of_ofChars? hn)
  have hstep : step .between c = some ([], .number [c]) := by
    rcases hbegin with hc | rfl
    · exact step_between_of_isDigit hc
    · rfl
  intro rest hrest
  rw [List.cons_append, cut_silent hstep]
  refine run_number.cut hnumeric ?_ fun d hd => (hrest d hd).1
  rwa [List.reverse_append, List.reverse_reverse]

/-- A word that has a value. -/
theorem cutsOff_word {v : Json} (hbegin : step .between c = some ([], .word [c])) (hs : s.all Char.isLower = true)
    (hv : wordValue? (s.reverse ++ [c]) = some v) : CutsOff (c :: s) [.scalar v] := by
  intro rest hrest
  rw [List.cons_append, cut_silent hbegin]
  exact run_word.cut (List.all_eq_true.mp hs) hv fun d hd => (hrest d hd).2

/-! ## Texts -/

/-- A backslash and a letter. -/
theorem cut_escape {letter : Char} (hletter : letter ≠ 'u') (h : escapeValue? letter = some c) (units : List Unit)
    (rest : List Char) : cut (.inText units) ('\\' :: letter :: rest) = cut (.inText (.char c :: units)) rest := by
  have hescape : step (.escape units) letter = some ([], .inText (.char c :: units)) := by
    rw [step, if_neg hletter, h, Option.map_some]
  have hback : step (.inText units) '\\' = some ([], .escape units) := rfl
  rw [cut_silent hback, cut_silent hescape]

/-- The number of a control character. -/
theorem cut_numberedEscape {n : Nat} (hn : n < 0x20) (units : List Unit) (rest : List Char) :
    cut (.inText units) (numberedEscape n ++ rest) = cut (.inText (.code n :: units)) rest := by
  have hdigits : ∀ n < 0x20, numberedEscape n = ['\\', 'u', '0', '0', Nat.digitChar (n / 16), Nat.digitChar (n % 16)] := by decide
  have hvalue : ∀ d < 16, hexValue? (Nat.digitChar d) = some d := by decide
  have hback : step (.inText units) '\\' = some ([], .escape units) := rfl
  have hletter : step (.escape units) 'u' = some ([], .code units 0 0) := rfl
  have hfirst : step (.code units 0 0) '0' = some ([], .code units 1 0) := rfl
  have hsecond : step (.code units 1 0) '0' = some ([], .code units 2 0) := rfl
  have hthird : step (.code units 2 0) (Nat.digitChar (n / 16)) = some ([], .code units 3 (n / 16)) := by
    rw [step, hvalue _ (by omega), Option.map_some, if_neg (by decide), Nat.mul_zero, Nat.zero_add]
  have hfourth : step (.code units 3 (n / 16)) (Nat.digitChar (n % 16)) = some ([], .inText (.code n :: units)) := by
    rw [step, hvalue _ (Nat.mod_lt _ (by decide)), Option.map_some, if_pos rfl, Nat.div_add_mod]
  simp only [hdigits n hn, List.cons_append, List.nil_append]
  rw [cut_silent hback, cut_silent hletter, cut_silent hfirst, cut_silent hsecond, cut_silent hthird, cut_silent hfourth]

/-- The unit of a character that is written with its escape if it needs one. -/
theorem cut_escapedChar (c : Char) : ∃ u, (∀ us, characters? (u :: us) = (characters? us).map (c :: ·)) ∧
    ∀ units rest, cut (.inText units) (escapedChar c ++ rest) = cut (.inText (u :: units)) rest := by
  have hletter : ∀ {letter : Char}, letter ≠ 'u' → escapeValue? letter = some c →
      ∃ u, (∀ us, characters? (u :: us) = (characters? us).map (c :: ·)) ∧
        ∀ units rest, cut (.inText units) (['\\', letter] ++ rest) = cut (.inText (u :: units)) rest := fun hne h =>
    ⟨.char c, fun _ => rfl, cut_escape hne h⟩
  unfold escapedChar
  split_ifs with hmark hback hfeed hline hreturn htab hcontrol
  · rcases hmark with rfl | rfl <;> exact hletter (by decide) rfl
  · exact hletter (by decide) (hback ▸ rfl)
  · exact hletter (by decide) (hfeed ▸ rfl)
  · exact hletter (by decide) (hline ▸ rfl)
  · exact hletter (by decide) (hreturn ▸ rfl)
  · exact hletter (by decide) (htab ▸ rfl)
  · refine ⟨.code c.toNat, fun us => ?_, cut_numberedEscape hcontrol⟩
    have hhigh : isHigh c.toNat = false := by
      simp only [isHigh, Bool.and_eq_false_iff, decide_eq_false_iff_not]
      omega
    have hlow : isLow c.toNat = false := by
      simp only [isLow, Bool.and_eq_false_iff, decide_eq_false_iff_not]
      omega
    rw [characters?.eq_def]
    simp only [hhigh, hlow, Bool.false_eq_true, if_false, Char.ofNat_toNat]
  · refine ⟨.char c, fun _ => rfl, fun units rest => cut_silent ?_ rest⟩
    obtain ⟨hquote, hslash⟩ := not_or.mp hmark
    rw [step, if_neg hquote, if_neg hslash, if_neg hcontrol]

/-- A text between double quotes. -/
theorem cuts_quoted (s : String) : Cuts (quoted s).toList [.text (some s)] := by
  have hcut : ∀ chars : List Char, ∃ us, characters? us = some chars ∧
      ∀ units rest, cut (.inText units) (chars.flatMap escapedChar ++ rest) = cut (.inText (us.reverse ++ units)) rest := by
    intro chars
    induction chars with
    | nil => exact ⟨[], rfl, fun _ _ => rfl⟩
    | cons c chars ih =>
      obtain ⟨u, hu, hchar⟩ := cut_escapedChar c
      obtain ⟨us, hus, hrest⟩ := ih
      refine ⟨u :: us, by rw [hu, hus, Option.map_some], fun units rest => ?_⟩
      rw [List.flatMap_cons, List.append_assoc, hchar, hrest, List.reverse_cons, List.append_assoc]
      rfl
  intro rest
  obtain ⟨us, hus, htext⟩ := hcut s.toList
  have hopen : step .between '"' = some ([], .inText []) := rfl
  have hclose : step (.inText us.reverse) '"' = some ([.text (some s)], .between) := by
    rw [step, if_pos rfl, ofUnits, List.reverse_reverse, hus, Option.map_some, String.ofList_toList]
  rw [quoted, String.toList_ofList, List.cons_append, List.cons_append, List.append_assoc, cut_silent hopen, htext,
    List.append_nil, List.singleton_append, cut_cons hclose]

/-! ## Blocks -/

/-- A line break holds no token. -/
theorem cuts_lineBreak (level : Nat) : Cuts (lineBreak level).toList [] := by
  have hblanks : ∀ n, Cuts (List.replicate n ' ') [] := by
    intro n
    induction n with
    | zero => exact fun _ => Option.map_id'.symm
    | succ n ih => exact (cuts_char (c := ' ') rfl).append ih
  rw [lineBreak, String.toList_ofList]
  exact (cuts_char (c := '\n') rfl).append (hblanks _)

/-- A line break is apart from what stands in front of it. -/
theorem apart_lineBreak (level : Nat) (rest : List Char) : Apart ((lineBreak level).toList ++ rest) := by
  rw [lineBreak, String.toList_ofList]
  exact apart_cons rfl rfl _

/-- The separator of items is cut into a comma. -/
theorem cuts_separator (level : Nat) : Cuts ("," ++ lineBreak level).toList [.comma] := by
  rw [String.toList_append]
  exact (cuts_char (c := ',') rfl).append (cuts_lineBreak level)

/-- The separator of items is apart from what stands in front of it. -/
theorem apart_separator (level : Nat) (rest : List Char) : Apart (("," ++ lineBreak level).toList ++ rest) := by
  rw [String.toList_append]
  exact apart_cons rfl rfl _

/-- Parts, one a line, with commas between them. -/
theorem cutsOff_intercalate (level : Nat) {texts : List String} {parts : List (List Token)}
    (h : List.Forall₂ (fun text tokens => CutsOff text.toList tokens) texts parts) :
    CutsOff (("," ++ lineBreak level).intercalate texts).toList ([.comma].intercalate parts) := by
  induction h with
  | nil => exact fun _ _ => Option.map_id'.symm
  | @cons text tokens texts parts hhead hrest ih =>
    cases hrest with
    | nil =>
      rw [String.intercalate_singleton, List.intercalate_singleton]
      exact hhead
    | cons =>
      rw [String.intercalate_cons_cons, String.toList_append, String.toList_append, List.intercalate_cons_cons]
      exact (hhead.append (cuts_separator level) (apart_separator level)).append_off ih

/-- Parts between brackets. -/
theorem cuts_block (level : Nat) {opening closing : String} {first last : Token} (hopening : Cuts opening.toList [first])
    (hclosing : Cuts closing.toList [last]) {texts : List String} {parts : List (List Token)}
    (h : List.Forall₂ (fun text tokens => CutsOff text.toList tokens) texts parts) :
    Cuts (block level opening closing texts).toList (first :: [.comma].intercalate parts ++ [last]) := by
  unfold block
  split_ifs with hempty
  · rw [List.isEmpty_iff.mp hempty] at h
    cases h
    rw [String.toList_append]
    exact hopening.append hclosing
  · simp only [String.toList_append]
    have hparts := (hopening.append (cuts_lineBreak (level + 1))).append_off (cutsOff_intercalate (level + 1) h)
    have hblock := (hparts.append (cuts_lineBreak level) (apart_lineBreak level)).append hclosing
    simpa only [List.append_nil, List.singleton_append] using hblock

end FlinkSql.Json.Token
