import FlinkSql.Function.Standard
import FlinkSql.Proofs.Expr.Induction
import FlinkSql.Proofs.Outcome
import FlinkSql.Proofs.Text.Pattern
import FlinkSql.Proofs.Text.Reading

/-!
# Tests with LIKE

Whether a text contains, starts with or ends with another one is asked with LIKE. The pattern of a literal stands for the literal, whatever
characters it is made of. A computed pattern is used as it is, so its wildcards are wildcards: the two agree exactly if it has none.
-/

namespace FlinkSql.Like

/-! ## Methods -/

/-- The methods of strings that are written as a test with LIKE. -/
inductive Method
  | contains
  | startsWith
  | endsWith
  deriving DecidableEq

namespace Method

def name : Method → String
  | .contains => "contains"
  | .startsWith => "starts_with"
  | .endsWith => "ends_with"

/-- Whether the text may begin before the part. -/
def before : Method → Bool
  | .contains => true
  | .startsWith => false
  | .endsWith => true

/-- Whether the text may go on behind the part. -/
def after : Method → Bool
  | .contains => true
  | .startsWith => true
  | .endsWith => false

/-- What the method asks of a part and the whole text. -/
def Holds (m : Method) (part whole : List Char) : Prop :=
  match m with
  | .contains => part <:+: whole
  | .startsWith => part <+: whole
  | .endsWith => part <:+ whole

/-- Marks on both sides accept an inner part, one behind accepts a prefix, and one in front a suffix. -/
theorem within_iff {m : Method} {part whole : List Char} : Within m.before m.after part whole ↔ m.Holds part whole := by
  cases m with
  | contains =>
    constructor
    · rintro ⟨lead, rest, h, -, -⟩
      exact ⟨lead, rest, h.symm⟩
    · rintro ⟨lead, rest, h⟩
      exact ⟨lead, rest, h.symm, nofun, nofun⟩
  | startsWith =>
    constructor
    · rintro ⟨lead, rest, h, hlead, -⟩
      obtain rfl := hlead rfl
      exact ⟨rest, h.symm⟩
    · rintro ⟨rest, h⟩
      exact ⟨[], rest, h.symm, fun _ => rfl, nofun⟩
  | endsWith =>
    constructor
    · rintro ⟨lead, rest, h, -, hrest⟩
      obtain rfl := hrest rfl
      exact ⟨lead, by rw [h, List.append_nil]⟩
    · rintro ⟨lead, h⟩
      exact ⟨lead, [], by rw [List.append_nil, h], nofun, fun _ => rfl⟩

/-- A part is made of characters of the whole text. -/
theorem Holds.subset {m : Method} {part whole : List Char} (h : m.Holds part whole) : part ⊆ whole := by
  cases m with
  | contains => exact List.IsInfix.subset h
  | startsWith => exact List.IsPrefix.subset h
  | endsWith => exact List.IsSuffix.subset h

/-- A call of the method. -/
def call (m : Method) (receiver pattern : Expr) : Expr := .call ⟨.string, m.name⟩ (some receiver) [pattern]

/-- A call is written as a test of the receiver. -/
theorem sql_call {aliases : Aliases} {receiver pattern : Expr} {r x : String} (m : Method) (hr : receiver.sql .standard aliases = .ok r)
    (hx : pattern.sql .standard aliases = .ok x) :
    (m.call receiver pattern).sql .standard aliases =
      write m.before m.after ⟨⟨⟨.string, m.name⟩, some receiver, [pattern]⟩, [r, x]⟩ := by
  have hrule : Registry.standard.rule? ⟨⟨.string, m.name⟩, 1⟩ = some (.transform (write m.before m.after)) := by
    cases m <;> rfl
  have hparts : (Expr.parts (some receiver) [pattern]).mapM (Expr.sql .standard aliases) = .ok [r, x] := by
    rw [Expr.parts, Option.toList_some, List.singleton_append, List.mapM_cons, List.mapM_cons, hr, hx]
    rfl
  rw [call, Expr.sql_call, hparts]
  show Registry.standard.write _ = _
  unfold Registry.write
  rw [Call.shape, List.length_singleton, hrule]

end Method

/-! ## What stands behind LIKE -/

/-- An operand of a concatenation. -/
inductive Operand
  /-- A string literal. -/
  | quoted (text : String)
  /-- The SQL of a value. -/
  | computed (sql : String)

def Operand.sql : Operand → String
  | .quoted text => Text.quotedString text
  | .computed sql => sql

/-- The value of an operand, given the values of what is computed. -/
def Operand.value (values : String → String) : Operand → String
  | .quoted text => text
  | .computed sql => values sql

/-- A pattern as it is written. -/
inductive Pattern
  /-- A string literal with an escape character. -/
  | escaped (text : String)
  /-- A concatenation without one. -/
  | concat (operands : List Operand)

/-- A test of the receiver against the pattern. -/
def Pattern.sql (receiver : String) : Pattern → String
  | .escaped text => "(" ++ receiver ++ " LIKE " ++ Text.quotedString text ++ " ESCAPE '" ++ String.singleton escape ++ "')"
  | .concat operands => "(" ++ receiver ++ " LIKE CONCAT(" ++ ", ".intercalate (operands.map Operand.sql) ++ "))"

/-- The pattern accepts a text, given the values of what is computed. -/
def Pattern.Accepts (values : String → String) (s : List Char) : Pattern → Prop
  | .escaped text => Like.Accepts (some escape) text.toList s
  | .concat operands => Like.Accepts none (operands.flatMap fun operand => (operand.value values).toList) s

instance (values : String → String) (s : List Char) (p : Pattern) : Decidable (p.Accepts values s) :=
  match p with
  | .escaped text => inferInstanceAs (Decidable (Like.Accepts (some escape) text.toList s))
  | .concat operands => inferInstanceAs (Decidable (Like.Accepts none (operands.flatMap fun operand => (operand.value values).toList) s))

/-! ## Literal patterns -/

/-- A text with its wildcards and escape characters escaped. -/
def escapeWildcards (s : List Char) : List Char :=
  s.flatMap fun c => if c = '%' ∨ c = '_' ∨ c = escape then [escape, c] else [c]

/-- Quotes are doubled in the escaped text as they are in any other. -/
theorem escaped_eq_doubled (s : List Char) : escaped s = Text.doubled Text.singleQuote (escapeWildcards s) := by
  have hchar : ∀ c, escapedChar c =
      Text.doubled Text.singleQuote (if c = '%' ∨ c = '_' ∨ c = escape then [escape, c] else [c]) := by
    intro c
    rw [escapedChar]
    split_ifs with hspecial hquote
    · rcases hspecial with rfl | rfl | rfl <;> rfl
    · rw [hquote]
      rfl
    · rw [Text.doubled_of_not_mem (List.mem_singleton.not.mpr (Ne.symm hquote))]
  rw [escaped, escapeWildcards, Text.doubled, List.flatMap_assoc]
  exact congrArg (List.flatMap · s) (funext hchar)

/-- An escaped text is read as the characters that it is made of. -/
theorem read?_escapeWildcards (s : List Char) : read? (some escape) (escapeWildcards s) = some (s.map .char) := by
  induction s with
  | nil => rfl
  | cons c s ih =>
    rw [escapeWildcards, List.flatMap_cons, ← escapeWildcards]
    split_ifs with hspecial
    · rw [List.cons_append, List.singleton_append, read?_escape hspecial, ih]
      rfl
    · obtain ⟨hany, hone, hescape⟩ : c ≠ '%' ∧ c ≠ '_' ∧ c ≠ escape := by simpa only [not_or] using hspecial
      rw [List.singleton_append, read?_cons (by simpa using hescape), ih, piece, if_neg hany, if_neg hone]
      rfl

/-- The wildcard for any text is read as such, with or without an escape character. -/
theorem read?_wildcard {e : Option Char} (he : some '%' ≠ e) (wanted : Bool) :
    read? e (wildcard wanted).toList = some (optional wanted) := by
  cases wanted with
  | true =>
    show read? e ['%'] = _
    rw [read?_cons he, read?]
    rfl
  | false => rfl

namespace Method

variable {m : Method} {aliases : Aliases} {receiver pattern : Expr} {r x : String}

/-- The text of a literal pattern, before its quotes are doubled. -/
def literalText (m : Method) (p : List Char) : List Char :=
  (wildcard m.before).toList ++ escapeWildcards p ++ (wildcard m.after).toList

/-- The pattern that is written for a string literal. -/
def literal (m : Method) (p : String) : Pattern := .escaped (String.ofList (m.literalText p.toList))

/-- The pattern of a literal is read as its characters, with the marks of the method around them. -/
theorem read?_literalText (m : Method) (p : List Char) :
    read? (some escape) (m.literalText p) = some (optional m.before ++ p.map .char ++ optional m.after) := by
  have hpercent : some '%' ≠ some escape := by decide
  rw [literalText, List.append_assoc, read?_append (read?_wildcard hpercent _), read?_append (read?_escapeWildcards p),
    read?_wildcard hpercent, Option.map_some, Option.map_some, List.append_assoc]

/-- The pattern of a literal asks what the method asks. -/
theorem accepts_literalText_iff {p s : List Char} : Accepts (some escape) (m.literalText p) s ↔ m.Holds p s := by
  rw [accepts_iff_of_read? (m.read?_literalText p), accepts_within_iff]
  simp only [accepts_chars_iff, exists_eq_left, within_iff]

/-- With a literal, a method is written with the escaped pattern. -/
theorem sql_literal (m : Method) (hr : receiver.sql .standard aliases = .ok r) (p : String) :
    (m.call receiver (.literal (.string p))).sql .standard aliases = .ok ((m.literal p).sql r) := by
  have hquotes : ∀ wanted, Text.doubled Text.singleQuote (wildcard wanted).toList = (wildcard wanted).toList := by decide
  have hdoubled : Text.doubled Text.singleQuote (m.literalText p.toList) =
      (wildcard m.before).toList ++ escaped p.toList ++ (wildcard m.after).toList := by
    rw [escaped_eq_doubled, literalText, Text.doubled, List.flatMap_append, List.flatMap_append, ← Text.doubled, ← Text.doubled,
      ← Text.doubled, hquotes, hquotes]
  rw [m.sql_call hr (x := Text.quotedString p) (by rw [Expr.sql, Literal.sql])]
  show Except.ok _ = Except.ok _
  rw [literal, Pattern.sql, Text.quotedString, Text.quoted, String.toList_ofList, hdoubled]
  refine congrArg Except.ok (String.toList_inj.mp ?_)
  simp [Text.singleQuote]

/-- A literal is looked for as it is. The pattern between its quotes has nothing escaped but wildcards and escape characters, and asks of
every text what the method asks of it and the literal. -/
theorem literal_stands_for_itself (m : Method) (hr : receiver.sql .standard aliases = .ok r) (p : String) :
    ∃ text pattern, (m.call receiver (.literal (.string p))).sql .standard aliases = .ok text ∧
      (Text.after? ("(" ++ r ++ " LIKE '") text.toList).bind (Text.unquoted? '\'') = some (pattern, " ESCAPE '^')".toList) ∧
      EachEscapeFollowed '^' pattern ∧ ∀ s, Accepts (some '^') pattern s ↔ m.Holds p.toList s := by
  refine ⟨_, m.literalText p.toList, m.sql_literal hr p, ?_, eachEscapeFollowed_of_read? (m.read?_literalText p.toList), ?_⟩
  · have htext : ((m.literal p).sql r).toList =
        ("(" ++ r ++ " LIKE '").toList ++ (Text.doubled '\'' (m.literalText p.toList) ++ '\'' :: " ESCAPE '^')".toList) := by
      simp [literal, Pattern.sql, Text.quotedString, Text.quoted, Text.singleQuote, escape]
    rw [htext, Text.after?_append, Option.bind_some, Text.unquoted?_doubled _ (by decide)]
  · exact fun s => accepts_literalText_iff

/-- The name of an order. -/
def orderName : Expr := .column ⟨"o", some "Order"⟩ "Name"

theorem sql_orderName : orderName.sql .standard ⟨["Order"], none⟩ = .ok "t0.`name`" := eq_ok_of_toOption (by decide +kernel)

/-- Nothing but marks is looked for in the name. -/
theorem orderName_contains_marks :
    orderName.sql .standard ⟨["Order"], none⟩ = .ok "t0.`name`" ∧
    ∃ text pattern, (contains.call orderName (.literal (.string "'%_^"))).sql .standard ⟨["Order"], none⟩ = .ok text ∧
      (Text.after? "(t0.`name` LIKE '" text.toList).bind (Text.unquoted? '\'') = some (pattern, " ESCAPE '^')".toList) ∧
      EachEscapeFollowed '^' pattern ∧ ∀ s, Accepts (some '^') pattern s ↔ "'%_^".toList <:+: s :=
  ⟨sql_orderName, literal_stands_for_itself .contains sql_orderName "'%_^"⟩

/-! ## Computed patterns -/

/-- A value between the wildcards that the method wants. -/
def operands (m : Method) (x : String) : List Operand :=
  (if m.before then [.quoted "%"] else []) ++ [.computed x] ++ (if m.after then [.quoted "%"] else [])

/-- The pattern that is written for any other argument. -/
def computed (m : Method) (x : String) : Pattern := .concat (m.operands x)

/-- With a pattern that is no literal, a method joins it with the marks. -/
theorem sql_computed (m : Method) (hr : receiver.sql .standard aliases = .ok r) (hx : pattern.sql .standard aliases = .ok x)
    (hpattern : ∀ text, pattern ≠ .literal (.string text)) :
    (m.call receiver pattern).sql .standard aliases = .ok ((m.computed x).sql r) := by
  have hliteral : Arguments.stringLiteral? ⟨⟨⟨.string, m.name⟩, some receiver, [pattern]⟩, [r, x]⟩ 1 = none := by
    unfold Arguments.stringLiteral?
    split
    · rename_i text htext
      exact absurd (Option.some.inj htext) (hpattern text)
    · rfl
  have hpercent : Text.quotedString "%" = "'%'" := rfl
  rw [m.sql_call hr hx, write]
  simp only [hliteral]
  cases m <;> simp [computed, operands, Pattern.sql, Operand.sql, before, after, hpercent, Arguments.sql, bind, Except.bind, pure,
    Except.pure]

/-- Every method holds of a text and itself. -/
theorem Holds.refl (m : Method) (s : List Char) : m.Holds s s := by
  cases m with
  | contains => exact List.infix_rfl
  | startsWith => exact List.prefix_rfl
  | endsWith => exact List.suffix_rfl

/-- A computed pattern accepts the texts in which the method finds one that the value stands for. -/
theorem accepts_computed_iff {values : String → String} {s : List Char} :
    (m.computed x).Accepts values s ↔ ∃ part, Like.Accepts none (values x).toList part ∧ m.Holds part s := by
  have hoperands : ((m.operands x).flatMap fun operand => (operand.value values).toList) =
      (wildcard m.before).toList ++ (values x).toList ++ (wildcard m.after).toList := by
    cases m <;> simp [operands, before, after, wildcard, Operand.value]
  have hwildcard : ∀ wanted, (wildcard wanted).toList.map piece = optional wanted := by decide
  rw [computed, Pattern.Accepts, hoperands, accepts_iff_of_read? (read?_none _), List.map_append, List.map_append, hwildcard, hwildcard,
    accepts_within_iff]
  simp only [accepts_iff_of_read? (read?_none _), within_iff]

/-- Where the value has no wildcard, the computed pattern asks what the method asks of the value. Where it has one, a text without
wildcards is accepted, in which the value cannot be found. -/
theorem computed_agrees_iff {values : String → String} :
    (∀ s, (m.computed x).Accepts values s ↔ m.Holds (values x).toList s) ↔ ¬HasWildcard (values x).toList := by
  constructor
  · intro h hwildcard
    have hfilled : (m.computed x).Accepts values (filled (values x).toList) :=
      accepts_computed_iff.mpr ⟨_, (accepts_iff_of_read? (read?_none _)).mpr (accepts_filled _), Holds.refl m _⟩
    have hsubset := ((h _).mp hfilled).subset
    exact not_hasWildcard_filled _ (hwildcard.imp (hsubset ·) (hsubset ·))
  · intro hwildcard s
    rw [accepts_computed_iff]
    simp only [accepts_iff_of_read? (read?_none _), map_piece_of_not_hasWildcard hwildcard, accepts_chars_iff, exists_eq_left]

/-- A computed pattern is used as it is: it accepts what its value, read as a pattern without an escape character, stands for. That is all
that the literal of the same value accepts, and no more exactly if there is no wildcard in the value. -/
theorem computed_used_as_it_is (m : Method) (hr : receiver.sql .standard aliases = .ok r) (hx : pattern.sql .standard aliases = .ok x)
    (hpattern : ∀ text, pattern ≠ .literal (.string text)) (values : String → String) :
    (m.call receiver pattern).sql .standard aliases = .ok ((m.computed x).sql r) ∧
    (m.call receiver (.literal (.string (values x)))).sql .standard aliases = .ok ((m.literal (values x)).sql r) ∧
    (∀ s, (m.computed x).Accepts values s ↔ ∃ part, Like.Accepts none (values x).toList part ∧ m.Holds part s) ∧
    (∀ s, (m.literal (values x)).Accepts values s → (m.computed x).Accepts values s) ∧
    ((∀ s, (m.computed x).Accepts values s ↔ (m.literal (values x)).Accepts values s) ↔
      '%' ∉ (values x).toList ∧ '_' ∉ (values x).toList) := by
  have hliteral : ∀ s, (m.literal (values x)).Accepts values s ↔ m.Holds (values x).toList s := by
    intro s
    rw [literal, Pattern.Accepts, String.toList_ofList]
    exact accepts_literalText_iff
  refine ⟨m.sql_computed hr hx hpattern, m.sql_literal hr (values x), fun s => accepts_computed_iff, fun s h => ?_, ?_⟩
  · refine accepts_computed_iff.mpr ⟨_, ?_, (hliteral s).mp h⟩
    exact (accepts_iff_of_read? (read?_none _)).mpr (accepts_self _)
  · simp only [hliteral]
    rw [computed_agrees_iff, HasWildcard, not_or]

/-- The beginning of a name, kept with an order. -/
def orderPrefix : Expr := .column ⟨"o", some "Order"⟩ "Prefix"

theorem sql_orderPrefix : orderPrefix.sql .standard ⟨["Order"], none⟩ = .ok "t0.`prefix`" := eq_ok_of_toOption (by decide +kernel)

/-- Digits are looked for in the same way, wherever they come from. -/
theorem orderName_startsWith_digits :
    orderName.sql .standard ⟨["Order"], none⟩ = .ok "t0.`name`" ∧
    orderPrefix.sql .standard ⟨["Order"], none⟩ = .ok "t0.`prefix`" ∧
    (∀ text, orderPrefix ≠ .literal (.string text)) ∧
    (startsWith.call orderName orderPrefix).sql .standard ⟨["Order"], none⟩ = .ok "(t0.`name` LIKE CONCAT(t0.`prefix`, '%'))" ∧
    ∀ s, (startsWith.computed "t0.`prefix`").Accepts (fun _ => "50") s ↔ (startsWith.literal "50").Accepts (fun _ => "50") s := by
  have hpattern : ∀ text, orderPrefix ≠ .literal (.string text) := by
    rintro _ ⟨⟩
  obtain ⟨hsql, -, -, -, hagree⟩ := computed_used_as_it_is .startsWith sql_orderName sql_orderPrefix hpattern fun _ => "50"
  exact ⟨sql_orderName, sql_orderPrefix, hpattern, hsql, hagree.mpr (by decide)⟩

/-- A percent sign is a wildcard where it comes from a column, and stands for itself in a literal. -/
theorem orderName_startsWith_percent :
    (startsWith.call orderName orderPrefix).sql .standard ⟨["Order"], none⟩ =
      .ok ((startsWith.computed "t0.`prefix`").sql "t0.`name`") ∧
    (startsWith.computed "t0.`prefix`").sql "t0.`name`" = "(t0.`name` LIKE CONCAT(t0.`prefix`, '%'))" ∧
    (startsWith.computed "t0.`prefix`").Accepts (fun _ => "50%") "500".toList ∧
    (startsWith.call orderName (.literal (.string "50%"))).sql .standard ⟨["Order"], none⟩ =
      .ok ((startsWith.literal "50%").sql "t0.`name`") ∧
    (startsWith.literal "50%").sql "t0.`name`" = "(t0.`name` LIKE '50^%%' ESCAPE '^')" ∧
    ¬(startsWith.literal "50%").Accepts (fun _ => "50%") "500".toList := by
  have hcomputed := startsWith.sql_computed sql_orderName sql_orderPrefix (by rintro _ ⟨⟩)
  have hliteral := startsWith.sql_literal sql_orderName "50%"
  exact ⟨hcomputed, rfl, by decide, hliteral, by decide, by decide⟩

end Method

end FlinkSql.Like
