import FlinkSql.Proofs.Expr.Scalar

/-!
# Reading back what is written

Every well-formed scalar is read back from its text: no part, no order of parts and no grouping is lost. A scalar ends in front of
a blank, a comma or a closing parenthesis, and it is read back in front of each of them, whatever follows; so the lemma of a form
puts those of its parts one behind the other, and `read_chars` is the induction over the forms.
-/

namespace FlinkSql.Scalar

open Text

/-! ## Delimiters -/

/-- Whether a scalar may end in front of the character. -/
def isDelimiter (c : Char) : Bool := c == ' ' || c == ')' || c == ','

/-- Whether a scalar may end in front of the text. -/
def Delimited (s : List Char) : Prop := ∀ c ∈ s.head?, isDelimiter c = true

/-- The scalar is read back in front of every text at which it may end. -/
def Reads (read : Reading) (x : Scalar) : Prop := ∀ rest, Delimited rest → read (x.chars ++ rest) = some (x, rest)

/-- Where a scalar may end, no word goes on. -/
theorem not_isBare_of_isDelimiter {c : Char} (h : isDelimiter c = true) : isBare c = false := by
  simp only [isDelimiter, Bool.or_eq_true, beq_iff_eq] at h
  rcases h with (rfl | rfl) | rfl <;> rfl

/-- A scalar may end at the end of the text. -/
theorem delimited_nil : Delimited [] := by
  rintro c ⟨⟩

/-- A scalar may end in front of a delimiter. -/
theorem delimited_cons {c : Char} (h : isDelimiter c = true) (rest : List Char) : Delimited (c :: rest) := by
  rintro _ ⟨⟩
  exact h

/-- A fixed text that begins with a delimiter. -/
theorem delimited_append {word : String} (h : word.toList.head?.any isDelimiter = true) (rest : List Char) :
    Delimited (word.toList ++ rest) := by
  cases hword : word.toList with
  | nil =>
    rw [hword] at h
    exact absurd h Bool.false_ne_true
  | cons c s =>
    rw [hword] at h
    exact delimited_cons h _

/-- In front of a text at which a scalar may end, a word is over. -/
theorem Delimited.not_bare {rest : List Char} (h : Delimited rest) : ∀ c ∈ rest.head?, isBare c = false :=
  fun c hc => not_isBare_of_isDelimiter (h c hc)

/-- In front of a text at which a scalar may end, no quote follows that would double the last one of a string. -/
theorem Delimited.not_quote {rest : List Char} (h : Delimited rest) : rest.head? ≠ some singleQuote := by
  intro hc
  exact absurd (h singleQuote hc) (by decide)

/-- A keyword is found by its characters. -/
theorem keyword?_chars (k : Keyword) : keyword? k.chars = some k := by
  cases k <;> rfl

/-- A text is no keyword if no keyword begins as it does. -/
theorem keyword?_of_head {c : Char} {s : List Char} (h : ∀ k : Keyword, k.chars.head? ≠ some c) : keyword? (c :: s) = none := by
  rw [keyword?, List.find?_eq_none]
  intro k _ hk
  exact h k (congrArg List.head? (beq_iff_eq.mp hk))

/-- An operator is found by its SQL. -/
theorem operator?_sql (op : BinaryOp) : operator? op.sql.toList = some op := by
  cases op <;> rfl

/-- A class of characters without separators. -/
theorem isBare_of_class {p : Char → Bool} (hp : separators.any p = false) {c : Char} (h : p c = true) : isBare c = true := by
  rw [isBare, Bool.not_eq_true', List.contains_eq_mem, decide_eq_false_iff_not]
  exact fun hc => List.any_eq_false.mp hp c hc h

/-- A keyword is written without quotes, blanks and delimiters. -/
theorem isBare_of_mem_chars (k : Keyword) : ∀ c ∈ k.chars, isBare c = true :=
  List.all_eq_true.mp (by cases k <;> decide)

theorem isBare_of_mem_sql (op : BinaryOp) : ∀ c ∈ op.sql.toList, isBare c = true :=
  List.all_eq_true.mp (by cases op <;> decide)

variable {read : Reading}

/-- A scalar is read up to the fixed words behind it, if these begin where a scalar may end. -/
theorem readUpTo_chars {x : Scalar} (hx : Reads read x) (close : String) (hclose : close.toList.head?.any isDelimiter = true)
    (rest : List Char) : readUpTo read close (x.chars ++ (close.toList ++ rest)) = some (x, rest) := by
  rw [readUpTo, hx _ (delimited_append hclose rest), Option.bind_eq_bind, Option.bind_some]
  simp only [after?_append]
  rfl

/-! ## Words and quoted texts -/

/-- Behind a keyword stands something that is not bare. -/
theorem readForm_keyword (k : Keyword) {word : String} (h : word.toList.head?.any (fun c => !isBare c) = true) (rest : List Char) :
    readForm read (k.chars ++ (word.toList ++ rest)) = readKeyword read k (word.toList ++ rest) := by
  have hrest : ∀ c ∈ (word.toList ++ rest).head?, isBare c = false := by
    intro c hc
    cases hword : word.toList with
    | nil =>
      rw [hword] at h
      exact absurd h Bool.false_ne_true
    | cons d s =>
      rw [hword] at h hc
      obtain rfl := Option.some.inj hc
      simpa using h
  have hne : k.chars ≠ [] := by cases k <;> decide
  simp only [readForm]
  rw [takeWhile_append_of_head (isBare_of_mem_chars k) hrest, dropWhile_append_of_head (isBare_of_mem_chars k) hrest,
    if_neg hne, keyword?_chars]

/-- Behind an opening parenthesis a group is read. -/
theorem readForm_group (rest : List Char) : readForm read ('(' :: rest) = readGroup read rest := rfl

/-- A word without a keyword is read back. -/
theorem reads_word {text : List Char} (h : IsBare text) : Reads (readForm read) (.word text) := by
  intro rest hrest
  rw [chars, readForm]
  simp only [takeWhile_append_of_head h.bare hrest.not_bare, dropWhile_append_of_head h.bare hrest.not_bare]
  rw [if_neg h.nonempty, h.free]

/-- A string is read back, with all quotes that are doubled in it. -/
theorem reads_string (text : List Char) : Reads (readForm read) (.string text) := by
  intro rest hrest
  have hform : readForm read ((Scalar.string text).chars ++ rest) =
      (unquoted? singleQuote ((doubled singleQuote text ++ [singleQuote]) ++ rest)).map (Prod.map .string id) :=
    rfl
  rw [hform, List.append_assoc, List.singleton_append, unquoted?_doubled text hrest.not_quote]
  rfl

/-- A timestamp without quotes in its text is read back. -/
theorem reads_timestamp {text : List Char} (h : singleQuote ∉ text) : Reads (readForm read) (.timestamp text) := by
  intro rest hrest
  have hread := unquoted?_doubled text hrest.not_quote
  rw [doubled_of_not_mem h] at hread
  simp only [chars, List.append_assoc, List.singleton_append]
  rw [readForm_keyword _ (by decide), readKeyword]
  simp only [after?_append, Option.bind_eq_bind, Option.bind_some, hread, Option.pure_def]

/-! ## Functions and conditionals -/

/-- The length of a text is read back with the text. -/
theorem reads_length {target : Scalar} (ht : Reads read target) : Reads (readForm read) (.member .length target) := by
  intro rest hrest
  simp only [chars, List.append_assoc]
  rw [readForm_keyword _ (by decide), readKeyword]
  simp only [after?_append, Option.bind_eq_bind, Option.bind_some, readUpTo_chars ht ")" (by decide), Option.pure_def]

/-- A part of a date is read back with the date. -/
theorem reads_part {name : String} (hname : ∀ c ∈ name.toList, isBare c = true) {target : Scalar} (ht : Reads read target) :
    Reads (readForm read) (.member (.part name) target) := by
  intro rest hrest
  have htail : Delimited (" FROM ".toList ++ (target.chars ++ (")".toList ++ rest))) := delimited_append (by decide) _
  have htarget := readUpTo_chars ht ")" (by decide) rest
  simp only [chars, List.append_assoc]
  rw [readForm_keyword _ (by decide), readKeyword]
  simp only [after?_append, Option.bind_eq_bind, Option.bind_some, takeWhile_append_of_head hname htail.not_bare,
    dropWhile_append_of_head hname htail.not_bare, htarget, String.ofList_toList, Option.pure_def]

/-- A condition is read back with both its branches. -/
theorem reads_conditional {condition yes no : Scalar} (hc : Reads read condition) (hy : Reads read yes) (hn : Reads read no) :
    Reads (readForm read) (.conditional condition yes no) := by
  intro rest hrest
  have hcondition := readUpTo_chars hc " THEN " (by decide)
  have hyes := readUpTo_chars hy " ELSE " (by decide)
  have hno := readUpTo_chars hn " END" (by decide)
  simp only [chars, List.append_assoc]
  rw [readForm_keyword _ (by decide), readKeyword]
  simp only [after?_append, Option.bind_eq_bind, Option.bind_some, hcondition, hyes, hno, Option.pure_def]

/-- The first of two that is not NULL is read back with both. -/
theorem reads_coalesce {left right : Scalar} (hl : Reads read left) (hr : Reads read right) :
    Reads (readForm read) (.coalesce left right) := by
  intro rest hrest
  have hleft := readUpTo_chars hl ", " (by decide)
  have hright := readUpTo_chars hr ")" (by decide)
  simp only [chars, List.append_assoc]
  rw [readForm_keyword _ (by decide), readKeyword]
  simp only [after?_append, Option.bind_eq_bind, Option.bind_some, hleft, hright, Option.pure_def]

/-! ## Operators -/

/-- A negation is read back with its operand. -/
theorem reads_not {operand : Scalar} (ho : Reads read operand) : Reads (readForm read) (.unary .not operand) := by
  intro rest hrest
  have hoperand := readUpTo_chars ho ")" (by decide) rest
  have hspace : Delimited (" ".toList ++ (operand.chars ++ (")".toList ++ rest))) := delimited_append (by decide) _
  have hbare := isBare_of_mem_chars .not
  simp only [chars, List.cons_append, List.append_assoc]
  rw [readForm_group, readGroup, takeWhile_append_of_head hbare hspace.not_bare, keyword?_chars,
    dropWhile_append_of_head hbare hspace.not_bare]
  simp only [after?_append, Option.bind_eq_bind, Option.bind_some, hoperand, Option.pure_def]

/-- A keyword ends in front of what is no part of a word. -/
theorem takeWhile_keyword (k : Keyword) {rest : List Char} (h : ∀ c ∈ rest.head?, isBare c = false) :
    (k.chars ++ rest).takeWhile isBare = k.chars := takeWhile_append_of_head (isBare_of_mem_chars k) h

/-- No keyword begins with a minus sign. -/
theorem keyword?_minus (s : List Char) : keyword? ('-' :: s) = none :=
  keyword?_of_head fun k => by cases k <;> decide

/-- A minus sign is read back with its operand. -/
theorem reads_negate {operand : Scalar} (ho : Reads read operand) : Reads (readForm read) (.unary .negate operand) := by
  intro rest hrest
  have hoperand := ho (")".toList ++ rest) (delimited_append (by decide) rest)
  simp only [chars, List.cons_append, List.append_assoc]
  have hlead : ∀ s, ('-' :: s).takeWhile isBare = '-' :: s.takeWhile isBare := fun _ => rfl
  rw [readForm_group, readGroup, hlead, keyword?_minus]
  simp only [List.head?_cons, if_true, List.tail_cons, readMinus, hoperand, Option.bind_eq_bind, Option.bind_some, after?_append,
    Option.pure_def]

/-- A well-formed scalar does not begin with the word that negates. -/
theorem WellFormed.lead_ne {x : Scalar} (h : WellFormed x) {rest : List Char} (hrest : Delimited rest) :
    keyword? ((x.chars ++ rest).takeWhile isBare) ≠ some .not := by
  have hmark : ∀ k : Keyword, ∀ mark s, isBare mark = false → k ≠ .not →
      keyword? ((k.chars ++ mark :: s).takeWhile isBare) ≠ some .not := by
    intro k mark s hmark hk
    have hhead : ∀ c ∈ (mark :: s).head?, isBare c = false := by
      rintro _ ⟨⟩
      exact hmark
    rw [takeWhile_keyword k hhead, keyword?_chars]
    exact fun h => hk (Option.some.inj h)
  have hnone : keyword? [] ≠ some .not := by rintro ⟨⟩
  cases h with
  | word h =>
    rw [chars, takeWhile_append_of_head h.bare hrest.not_bare, h.free]
    exact nofun
  | string text => exact hnone
  | timestamp h => exact hmark .timestamp ' ' _ rfl nofun
  | length ht => exact hmark .charLength '(' _ rfl nofun
  | part h ht => exact hmark .extract '(' _ rfl nofun
  | not ho => exact hnone
  | negate ho => exact hnone
  | test h ho => exact hnone
  | binary op hl hr => exact hnone
  | conditional hc hy hn => exact hmark .case ' ' _ rfl nofun
  | coalesce hl hr => exact hmark .coalesce '(' _ rfl nofun

/-- Only a word begins with a minus sign. -/
theorem WellFormed.eq_word {x : Scalar} (h : WellFormed x) {rest : List Char} (hminus : (x.chars ++ rest).head? = some '-') :
    ∃ text, x = .word ('-' :: text) ∧ IsBare text := by
  cases h with
  | @word text h =>
    obtain ⟨c, text, rfl⟩ := List.exists_cons_of_ne_nil h.nonempty
    obtain rfl : c = '-' := Option.some.inj hminus
    exact ⟨text, rfl, h.unsigned text rfl⟩
  | string text => exact absurd (Option.some.inj hminus) (by decide)
  | timestamp h => exact absurd (Option.some.inj hminus) (by decide)
  | length ht => exact absurd (Option.some.inj hminus) (by decide)
  | part h ht => exact absurd (Option.some.inj hminus) (by decide)
  | not ho => exact absurd (Option.some.inj hminus) (by decide)
  | negate ho => exact absurd (Option.some.inj hminus) (by decide)
  | test h ho => exact absurd (Option.some.inj hminus) (by decide)
  | binary op hl hr => exact absurd (Option.some.inj hminus) (by decide)
  | conditional hc hy hn => exact absurd (Option.some.inj hminus) (by decide)
  | coalesce hl hr => exact absurd (Option.some.inj hminus) (by decide)

/-- Behind a parenthesis, what is not negated is read as the left operand of what follows it. A negative number is put together
again from its minus sign and its digits. -/
theorem readGroup_left (hword : ∀ text, IsBare text → Reads read (.word text)) {left : Scalar} (h : WellFormed left)
    (hl : Reads read left) (rest : List Char) :
    readGroup read (left.chars ++ (" ".toList ++ rest)) = readRight read left (" ".toList ++ rest) := by
  have hrest : Delimited (" ".toList ++ rest) := delimited_append (by decide) rest
  rw [readGroup]
  split
  · rename_i hnot
    exact absurd hnot (h.lead_ne hrest)
  · split
    · rename_i hminus
      obtain ⟨text, rfl, htext⟩ := h.eq_word hminus
      have htail : ((Scalar.word ('-' :: text)).chars ++ (" ".toList ++ rest)).tail =
          (Scalar.word text).chars ++ (" ".toList ++ rest) := rfl
      have hopen : after? ")" (" ".toList ++ rest) = none := rfl
      rw [htail, readMinus, hword text htext _ hrest, Option.bind_eq_bind, Option.bind_some]
      simp only [hopen]
    · rw [hl _ hrest]
      rfl

/-- Behind the left operand, an operator and the right operand are read. -/
theorem readRight_binary (left : Scalar) (op : BinaryOp) {right : Scalar} (hr : Reads read right) (rest : List Char) :
    readRight read left (" ".toList ++ (op.sql.toList ++ (" ".toList ++ (right.chars ++ (")".toList ++ rest))))) =
      some (.binary op left right, rest) := by
  have hspace : Delimited (" ".toList ++ (right.chars ++ (")".toList ++ rest))) := delimited_append (by decide) _
  have hright := readUpTo_chars hr ")" (by decide) rest
  rw [readRight]
  simp only [after?_append, Option.bind_eq_bind, Option.bind_some, takeWhile_append_of_head (isBare_of_mem_sql op) hspace.not_bare,
    dropWhile_append_of_head (isBare_of_mem_sql op) hspace.not_bare, operator?_sql, hright, Option.pure_def]

/-- No test begins with an operator, and none has a closing parenthesis. -/
theorem readRight_test (left : Scalar) {name : String} (h : name ∈ tests) (rest : List Char) :
    readRight read left (" ".toList ++ (name.toList ++ (")".toList ++ rest))) = some (.test name left, rest) := by
  have hlead : ∀ name ∈ tests, ∃ tail, name.toList = "IS".toList ++ (" ".toList ++ tail) := by
    simp only [tests, List.forall_mem_cons]
    exact ⟨⟨"NULL".toList, rfl⟩, ⟨"NOT NULL".toList, rfl⟩, nofun⟩
  have hinner : ∀ name ∈ tests, name.toList.all (· != ')') = true := by decide
  have hfree : ∀ c ∈ name.toList, (c != ')') = true := List.all_eq_true.mp (hinner name h)
  have hbare : ∀ c ∈ "IS".toList, isBare c = true := List.all_eq_true.mp (by decide)
  have hoperator : operator? "IS".toList = none := rfl
  have hclose : ∀ c ∈ (")".toList ++ rest).head?, (c != ')') = false := by
    rintro _ ⟨⟩
    rfl
  have hword : (name.toList ++ (")".toList ++ rest)).takeWhile isBare = "IS".toList := by
    obtain ⟨tail, htail⟩ := hlead name h
    rw [htail, List.append_assoc, List.append_assoc]
    exact takeWhile_append_of_head hbare (delimited_append (by decide) _).not_bare
  rw [readRight]
  simp only [after?_append, Option.bind_eq_bind, Option.bind_some, hword, hoperator,
    takeWhile_append_of_head hfree hclose, dropWhile_append_of_head hfree hclose, String.ofList_toList,
    if_pos h, Option.pure_def]

/-- A test for NULL is read back with its operand. -/
theorem reads_test (hword : ∀ text, IsBare text → Reads read (.word text)) {name : String} (hname : name ∈ tests)
    {operand : Scalar} (h : WellFormed operand) (ho : Reads read operand) : Reads (readForm read) (.test name operand) := by
  intro rest hrest
  simp only [chars, List.cons_append, List.append_assoc]
  rw [readForm_group, readGroup_left hword h ho, readRight_test operand hname]

/-- An operation is read back with both operands. -/
theorem reads_binary (hword : ∀ text, IsBare text → Reads read (.word text)) (op : BinaryOp) {left right : Scalar}
    (h : WellFormed left) (hl : Reads read left) (hr : Reads read right) : Reads (readForm read) (.binary op left right) := by
  intro rest hrest
  simp only [chars, List.cons_append, List.append_assoc]
  rw [readForm_group, readGroup_left hword h hl, readRight_binary left op hr]

/-! ## All scalars -/

/-- The scalars of which a form is made. -/
def parts : Scalar → List Scalar
  | .word _ => []
  | .string _ => []
  | .timestamp _ => []
  | .member _ target => [target]
  | .unary _ operand => [operand]
  | .test _ operand => [operand]
  | .binary _ left right => [left, right]
  | .conditional condition yes no => [condition, yes, no]
  | .coalesce left right => [left, right]

/-- The text of a part is shorter than the text of the whole. -/
theorem length_lt_of_mem_parts {x y : Scalar} (h : y ∈ x.parts) : y.chars.length < x.chars.length := by
  have hclose : ")".toList.length = 1 := rfl
  have hend : " END".toList.length = 4 := rfl
  cases x with
  | word text => exact absurd h List.not_mem_nil
  | string text => exact absurd h List.not_mem_nil
  | timestamp text => exact absurd h List.not_mem_nil
  | member form target =>
    obtain rfl := List.mem_singleton.mp h
    cases form <;> simp only [chars, List.length_append] <;> omega
  | unary op operand =>
    obtain rfl := List.mem_singleton.mp h
    cases op <;> simp only [chars, List.length_append, List.length_cons] <;> omega
  | test name operand =>
    obtain rfl := List.mem_singleton.mp h
    simp only [chars, List.length_append, List.length_cons]
    omega
  | binary op left right =>
    simp only [parts, List.mem_cons, List.not_mem_nil, or_false] at h
    simp only [chars, List.length_append, List.length_cons]
    rcases h with rfl | rfl <;> omega
  | conditional condition yes no =>
    simp only [parts, List.mem_cons, List.not_mem_nil, or_false] at h
    simp only [chars, List.length_append]
    rcases h with rfl | rfl | rfl <;> omega
  | coalesce left right =>
    simp only [parts, List.mem_cons, List.not_mem_nil, or_false] at h
    simp only [chars, List.length_append]
    rcases h with rfl | rfl <;> omega

/-- A scalar is read back at a depth if it is wherever there is room for its parts. -/
theorem reads_of_parts {x : Scalar} {depth : Nat} (hdepth : x.chars.length < depth)
    (h : ∀ n, (∀ y ∈ x.parts, y.chars.length < n) → Reads (readForm (Scalar.read n)) x) : Reads (Scalar.read depth) x := by
  cases depth with
  | zero => exact absurd hdepth (Nat.not_lt_zero _)
  | succ n => exact h n fun y hy => Nat.lt_of_lt_of_le (length_lt_of_mem_parts hy) (Nat.le_of_lt_succ hdepth)

/-- With more steps than the text is long, a word is read back. -/
theorem reads_bare {length n : Nat} (hn : length < n) (text : List Char) (h : IsBare text) :
    Reads (Scalar.read n) (.word text) := by
  cases n with
  | zero => exact absurd hn (Nat.not_lt_zero _)
  | succ n => exact reads_word h

/-- A well-formed scalar is read back, in front of every text at which it may end. -/
theorem read_chars {x : Scalar} (h : WellFormed x) : ∀ depth, x.chars.length < depth → Reads (Scalar.read depth) x := by
  induction h with
  | word h => exact fun _ hdepth => reads_of_parts hdepth fun _ _ => reads_word h.toIsBare
  | string text => exact fun _ hdepth => reads_of_parts hdepth fun _ _ => reads_string text
  | timestamp h => exact fun _ hdepth => reads_of_parts hdepth fun _ _ => reads_timestamp h
  | length ht iht =>
    refine fun _ hdepth => reads_of_parts hdepth fun n hn => ?_
    exact reads_length (iht n (hn _ (by simp [parts])))
  | part h ht iht =>
    refine fun _ hdepth => reads_of_parts hdepth fun n hn => ?_
    exact reads_part h (iht n (hn _ (by simp [parts])))
  | not ho iho =>
    refine fun _ hdepth => reads_of_parts hdepth fun n hn => ?_
    exact reads_not (iho n (hn _ (by simp [parts])))
  | negate ho iho =>
    refine fun _ hdepth => reads_of_parts hdepth fun n hn => ?_
    exact reads_negate (iho n (hn _ (by simp [parts])))
  | @test name operand h ho iho =>
    refine fun _ hdepth => reads_of_parts hdepth fun n hn => ?_
    have hoperand := hn operand (by simp [parts])
    exact reads_test (reads_bare hoperand) h ho (iho n hoperand)
  | @binary op left right hl hr ihl ihr =>
    refine fun _ hdepth => reads_of_parts hdepth fun n hn => ?_
    have hleft := hn left (by simp [parts])
    exact reads_binary (reads_bare hleft) op hl (ihl n hleft) (ihr n (hn _ (by simp [parts])))
  | conditional hc hy hn ihc ihy ihn =>
    refine fun _ hdepth => reads_of_parts hdepth fun n hlt => ?_
    exact reads_conditional (ihc n (hlt _ (by simp [parts]))) (ihy n (hlt _ (by simp [parts]))) (ihn n (hlt _ (by simp [parts])))
  | coalesce hl hr ihl ihr =>
    refine fun _ hdepth => reads_of_parts hdepth fun n hn => ?_
    exact reads_coalesce (ihl n (hn _ (by simp [parts]))) (ihr n (hn _ (by simp [parts])))

/-- A well-formed scalar is what its text is read as. -/
theorem ofChars?_chars {x : Scalar} (h : WellFormed x) : ofChars? x.chars = some x := by
  have hread := read_chars h _ (Nat.lt_succ_self _) [] delimited_nil
  rw [List.append_nil] at hread
  rw [ofChars?, hread]

/-- Different well-formed scalars are written differently. -/
theorem WellFormed.chars_inj {x y : Scalar} (hx : WellFormed x) (hy : WellFormed y) (h : x.chars = y.chars) : x = y := by
  have hread := ofChars?_chars hx
  rw [h, ofChars?_chars hy] at hread
  exact (Option.some.inj hread).symm

end FlinkSql.Scalar
