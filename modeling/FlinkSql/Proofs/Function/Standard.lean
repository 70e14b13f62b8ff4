import FlinkSql.Function.Standard
import FlinkSql.Proofs.Expr.Writing

/-!
# What the standard registry writes

The rules of the standard registry are renamings to plain words, seventeen templates, seven rules of their own, and refusals;
`Registry.IsStandard` says once which of them a shape can have. `Registry.Kept` lists what these do to the SQL of the arguments;
a property of texts that it holds of holds of every call that is written.
-/

namespace FlinkSql

/-! ## The kinds of rules -/

/-- The word that a rule renames to. -/
def Rule.word? : Rule → Option String
  | .rename sqlName => some sqlName
  | _ => none

/-- The template of a rule. -/
def Rule.template? : Rule → Option String
  | .template text => some text
  | _ => none

/-- What a rule of its own does. -/
def Rule.writer? : Rule → Option (Arguments → Except Failure String)
  | .transform write => some write
  | _ => none

namespace Registry

/-- A character of the words that functions are renamed to. -/
def isWordChar (c : Char) : Bool := c.isUpper || c.isDigit || c == '_'

/-- A word of capital letters, digits and underscores. -/
def isWord (s : String) : Bool := s.toList.all isWordChar

/-- Functions are renamed to words of capital letters, digits and underscores. -/
theorem standard_words : ∀ word ∈ standard.rules.filterMap (·.2.word?), isWord word = true := by
  decide +kernel

/-- The templates of the standard registry. -/
def templates : List String :=
  ["REPLACE({0}, {1}, {2})", "TRIM({0})", "TRIM(LEADING FROM {0})", "TRIM(TRAILING FROM {0})", "UPPER({0})", "LOWER({0})",
    "(POSITION({1} IN {0}) - 1)", "LN({0})", "LOG({1}, {0})", "CURRENT_TIMESTAMP", "{0}[{1}]", "window_start", "window_end",
    "window_time", "PROCTIME()", "COUNT(*)", "COUNT(DISTINCT {0})"]

/-- The templates of the standard registry are those in the list. -/
theorem standard_templates : standard.rules.filterMap (·.2.template?) = templates := by
  decide +kernel

/-- The rules of their own, each with the shape that it is registered for. -/
theorem standard_writers : standard.rules.filterMap (fun entry => entry.2.writer?.map (entry.1, ·)) =
    [(⟨⟨.string, "contains"⟩, 1⟩, Like.write true true), (⟨⟨.string, "starts_with"⟩, 1⟩, Like.write false true),
      (⟨⟨.string, "ends_with"⟩, 1⟩, Like.write true false), (⟨⟨.string, "substring"⟩, 1⟩, Offset.writeFrom),
      (⟨⟨.string, "substring"⟩, 2⟩, Offset.writeFromFor),
      (⟨⟨.flink, "timestamp_diff"⟩, 3⟩, TimeUnit.writeCall "TIMESTAMPDIFF"),
      (⟨⟨.flink, "timestamp_add"⟩, 3⟩, TimeUnit.writeCall "TIMESTAMPADD")] :=
  rfl

/-- A rule that a registry finds for a shape is registered for it. -/
theorem mem_of_rule? {r : Registry} {shape : FunctionShape} {rule : Rule} (h : r.rule? shape = some rule) :
    (shape, rule) ∈ r.rules := by
  obtain ⟨before, after, hrules, -⟩ := List.lookup_eq_some_iff.mp h
  rw [hrules]
  exact List.mem_append_right _ List.mem_cons_self

/-- The shapes of the tests for a pattern. -/
def likeShapes : List FunctionShape :=
  ["contains", "starts_with", "ends_with"].map fun name => ⟨⟨.string, name⟩, 1⟩

/-- The shapes of the calls with a unit of time. -/
def unitShapes : List FunctionShape :=
  ["timestamp_diff", "timestamp_add"].map fun name => ⟨⟨.flink, name⟩, 3⟩

/-- What the standard registry has for a shape: a word, a template, a rule of its own or a refusal. -/
inductive IsStandard (shape : FunctionShape) : Rule → Prop
  | word {word : String} : isWord word = true → IsStandard shape (.rename word)
  | template {template : String} : template ∈ templates → IsStandard shape (.template template)
  | like {before after : Bool} : shape ∈ likeShapes → IsStandard shape (.transform (Like.write before after))
  | rest : shape = ⟨⟨.string, "substring"⟩, 1⟩ → IsStandard shape (.transform Offset.writeFrom)
  | part : shape = ⟨⟨.string, "substring"⟩, 2⟩ → IsStandard shape (.transform Offset.writeFromFor)
  | unit {sqlName : String} : sqlName ∈ ["TIMESTAMPDIFF", "TIMESTAMPADD"] → shape ∈ unitShapes →
      IsStandard shape (.transform (TimeUnit.writeCall sqlName))
  | rejected {hint : Option String} : IsStandard shape (.rejected hint)

/-- Each rule that the standard registry finds is of one of these kinds. -/
theorem isStandard_of_rule? {shape : FunctionShape} {rule : Rule} (h : standard.rule? shape = some rule) :
    IsStandard shape rule := by
  have hentry := mem_of_rule? h
  cases rule with
  | rename word => exact .word (standard_words word (List.mem_filterMap.mpr ⟨_, hentry, rfl⟩))
  | template template =>
    refine .template ?_
    rw [← standard_templates]
    exact List.mem_filterMap.mpr ⟨_, hentry, rfl⟩
  | transform writer =>
    have hwriter : (shape, writer) ∈ standard.rules.filterMap (fun entry => entry.2.writer?.map (entry.1, ·)) :=
      List.mem_filterMap.mpr ⟨_, hentry, rfl⟩
    rw [standard_writers] at hwriter
    simp only [List.mem_cons, List.not_mem_nil, or_false, Prod.mk.injEq] at hwriter
    rcases hwriter with ⟨rfl, rfl⟩ | ⟨rfl, rfl⟩ | ⟨rfl, rfl⟩ | ⟨rfl, rfl⟩ | ⟨rfl, rfl⟩ | ⟨rfl, rfl⟩ | ⟨rfl, rfl⟩
    · exact .like (by decide)
    · exact .like (by decide)
    · exact .like (by decide)
    · exact .rest rfl
    · exact .part rfl
    · exact .unit (by decide) (by decide)
    · exact .unit (by decide) (by decide)
  | rejected hint => exact .rejected

/-- The names of the calls with a unit of time are words. -/
theorem isWord_unit : ∀ name ∈ ["TIMESTAMPDIFF", "TIMESTAMPADD"], isWord name = true := by
  decide

/-! ## Calls as texts -/

/-- A word, which may be empty, and something between parentheses behind it. -/
def IsBracketed (text : String) : Prop := ∃ word inside, isWord word = true ∧ text = word ++ "(" ++ inside ++ ")"

section

variable {a : Arguments} {text : String}

/-- A test for a pattern stands in parentheses. -/
theorem isBracketed_like {before after : Bool} (h : Like.write before after a = .ok text) : IsBracketed text := by
  obtain ⟨receiver, -, h⟩ := bind_eq_ok.mp h
  split at h
  · rename_i pattern hpattern
    cases h
    have hclose : "')" = "'" ++ ")" := by decide
    refine ⟨"", receiver ++ (" LIKE '" ++ Like.wildcard before ++ String.ofList (Like.escaped pattern.toList) ++ Like.wildcard after ++
      "' ESCAPE '" ++ String.singleton Like.escape ++ "'"), rfl, ?_⟩
    rw [hclose, String.empty_append]
    simp only [String.append_assoc]
  · obtain ⟨pattern, -, h⟩ := bind_eq_ok.mp h
    cases h
    have hclose : "))" = ")" ++ ")" := by decide
    refine ⟨"", receiver ++ (" LIKE CONCAT(" ++ ", ".intercalate
      ((if before then ["'%'"] else []) ++ [pattern] ++ (if after then ["'%'"] else [])) ++ ")"), rfl, ?_⟩
    rw [hclose, String.empty_append]
    simp only [String.append_assoc]

/-- The rest of a text is a word with parentheses behind it. -/
theorem isBracketed_from (h : Offset.writeFrom a = .ok text) : IsBracketed text := by
  obtain ⟨t, -, h⟩ := bind_eq_ok.mp h
  obtain ⟨start, -, h⟩ := bind_eq_ok.mp h
  cases h
  have hopen : "SUBSTRING(" = "SUBSTRING" ++ "(" := by decide
  refine ⟨"SUBSTRING", t ++ " FROM " ++ start, by decide, ?_⟩
  rw [hopen]
  simp only [String.append_assoc]

/-- A part of a text is a word with parentheses behind it. -/
theorem isBracketed_fromFor (h : Offset.writeFromFor a = .ok text) : IsBracketed text := by
  obtain ⟨t, -, h⟩ := bind_eq_ok.mp h
  obtain ⟨start, -, h⟩ := bind_eq_ok.mp h
  obtain ⟨length, -, h⟩ := bind_eq_ok.mp h
  cases h
  have hopen : "SUBSTRING(" = "SUBSTRING" ++ "(" := by decide
  refine ⟨"SUBSTRING", t ++ " FROM " ++ start ++ " FOR " ++ length, by decide, ?_⟩
  rw [hopen]
  simp only [String.append_assoc]

/-- A call with a unit of time is a word with parentheses behind it. -/
theorem isBracketed_unit {name : String} (hname : isWord name = true) (h : TimeUnit.writeCall name a = .ok text) :
    IsBracketed text := by
  obtain ⟨unit, -, h⟩ := bind_eq_ok.mp h
  obtain ⟨first, -, h⟩ := bind_eq_ok.mp h
  obtain ⟨second, -, h⟩ := bind_eq_ok.mp h
  cases h
  refine ⟨name, unit ++ ", " ++ first ++ ", " ++ second, hname, ?_⟩
  simp only [String.append_assoc]

/-- A call that is written is a word and something between parentheses, or a template that is filled. -/
theorem write_cases (h : standard.write a = .ok text) :
    IsBracketed text ∨
      ∃ template ∈ templates, standard.rule? a.call.shape = some (.template template) ∧ Template.fill template a = .ok text := by
  unfold write at h
  split at h
  · cases h
  · rename_i word hrule
    cases h
    cases isStandard_of_rule? hrule with
    | word hword => exact Or.inl ⟨word, _, hword, rfl⟩
  · rename_i template hrule
    cases isStandard_of_rule? hrule with
    | template hmem => exact Or.inr ⟨template, hmem, hrule, h⟩
  · rename_i writer hrule
    cases isStandard_of_rule? hrule with
    | like => exact Or.inl (isBracketed_like h)
    | rest => exact Or.inl (isBracketed_from h)
    | part => exact Or.inl (isBracketed_fromFor h)
    | unit hname => exact Or.inl (isBracketed_unit (isWord_unit _ hname) h)
  · cases h

end

/-! ## What they keep -/

/-- Each rule of the standard registry keeps to `P`: it writes a text in `P` if the arguments are written as texts in `P`. -/
structure Kept (P : String → Prop) : Prop where
  rename : ∀ word texts, isWord word = true → (∀ t ∈ texts, P t) →
    P (word ++ "(" ++ ", ".intercalate texts ++ ")")
  template : ∀ template ∈ templates, ∀ a : Arguments, (∀ t ∈ a.rendered, P t) → Written P (Template.fill template a)
  likeLiteral : ∀ receiver pattern before after, P receiver →
    P ("(" ++ receiver ++ " LIKE '" ++ Like.wildcard before ++ String.ofList (Like.escaped pattern) ++ Like.wildcard after ++
      "' ESCAPE '" ++ String.singleton Like.escape ++ "')")
  likeComputed : ∀ receiver parts, P receiver → (∀ part ∈ parts, P part ∨ part = "'%'") →
    P ("(" ++ receiver ++ " LIKE CONCAT(" ++ ", ".intercalate parts ++ "))")
  offset : ∀ n : Int, P (toString n)
  computedOffset : ∀ text, P text → P ("(" ++ text ++ " + 1)")
  rest : ∀ text start, P text → P start → P ("SUBSTRING(" ++ text ++ " FROM " ++ start ++ ")")
  part : ∀ text start length, P text → P start → P length →
    P ("SUBSTRING(" ++ text ++ " FROM " ++ start ++ " FOR " ++ length ++ ")")
  unit : ∀ name ∈ ["TIMESTAMPDIFF", "TIMESTAMPADD"], ∀ unit ∈ TimeUnit.all, ∀ first second, P first → P second →
    P (name ++ "(" ++ unit ++ ", " ++ first ++ ", " ++ second ++ ")")

/-- The SQL of an argument is in `P` if there is one. -/
theorem written_argument {P : String → Prop} {a : Arguments} (ha : ∀ t ∈ a.rendered, P t) (index : Nat) :
    Written P (a.sql index) := by
  unfold Arguments.sql
  split
  · rename_i text htext
    exact ha text (List.mem_of_getElem? htext)
  · exact rfl

/-- A unit of time is one of the units, and a string literal names it. -/
theorem outcome_ofArgument (a : Arguments) (index : Nat) :
    Outcome Failure.IsUnsupported (fun unit => unit ∈ TimeUnit.all ∧ ∃ name, a.stringLiteral? index = some name)
      (TimeUnit.ofArgument a index) := by
  unfold TimeUnit.ofArgument
  split
  · exact rfl
  · rename_i name hname
    split
    · rename_i unit hfound
      exact ⟨List.mem_of_find?_eq_some hfound, name, hname⟩
    · exact rfl

/-- What stands for a placeholder is in `P` if the arguments are. -/
theorem written_placeholder {P : String → Prop} {a : Arguments} (ha : ∀ t ∈ a.rendered, P t) (template : String)
    (digits : List Char) : Written P (Template.argument template a digits) := by
  unfold Template.argument
  split
  · exact rfl
  · exact written_argument ha _

namespace Kept

variable {P : String → Prop} {a : Arguments}

/-- A test for a pattern keeps to it. -/
theorem written_like (h : Kept P) (ha : ∀ t ∈ a.rendered, P t) (before after : Bool) : Written P (Like.write before after a) := by
  refine (written_argument ha 0).bind fun receiver hreceiver => ?_
  split
  · exact h.likeLiteral receiver _ before after hreceiver
  · refine (written_argument ha 1).bind fun pattern hpattern => h.likeComputed receiver _ hreceiver ?_
    intro part hpart
    simp only [List.mem_append, List.mem_singleton] at hpart
    rcases hpart with (hwild | rfl) | hwild
    · exact Or.inr (by cases before <;> simp_all)
    · exact Or.inl hpattern
    · exact Or.inr (by cases after <;> simp_all)

/-- An offset keeps to it. -/
theorem written_oneBased (h : Kept P) (ha : ∀ t ∈ a.rendered, P t) (index : Nat) : Written P (Offset.oneBased a index) := by
  unfold Offset.oneBased
  split
  · split
    · exact h.offset _
    · exact rfl
  · exact (written_argument ha index).bind fun text htext => h.computedOffset text htext

/-- The rest of a text keeps to it. -/
theorem written_from (h : Kept P) (ha : ∀ t ∈ a.rendered, P t) : Written P (Offset.writeFrom a) :=
  (written_argument ha 0).bind fun text htext => (h.written_oneBased ha 1).bind fun start hstart =>
    h.rest text start htext hstart

/-- A part of a text keeps to it. -/
theorem written_fromFor (h : Kept P) (ha : ∀ t ∈ a.rendered, P t) : Written P (Offset.writeFromFor a) :=
  (written_argument ha 0).bind fun text htext => (h.written_oneBased ha 1).bind fun start hstart =>
    (written_argument ha 2).bind fun length hlength => h.part text start length htext hstart hlength

/-- A call with a unit of time keeps to it. -/
theorem written_unit (h : Kept P) (ha : ∀ t ∈ a.rendered, P t) {name : String}
    (hname : name ∈ ["TIMESTAMPDIFF", "TIMESTAMPADD"]) : Written P (TimeUnit.writeCall name a) :=
  (outcome_ofArgument a 0).bind fun unit hunit => (written_argument ha 1).bind fun first hfirst =>
    (written_argument ha 2).bind fun second hsecond => h.unit name hname unit hunit.1 first second hfirst hsecond

/-- A call that the standard registry writes is in `P`, if its arguments are. -/
theorem write (h : Kept P) (ha : ∀ t ∈ a.rendered, P t) : Written P (standard.write a) := by
  unfold Registry.write
  split
  · exact rfl
  · rename_i word hrule
    cases isStandard_of_rule? hrule with
    | word hword => exact h.rename word _ hword ha
  · rename_i template hrule
    cases isStandard_of_rule? hrule with
    | template hmem => exact h.template template hmem a ha
  · rename_i writer hrule
    cases isStandard_of_rule? hrule with
    | like => exact h.written_like ha _ _
    | rest => exact h.written_from ha
    | part => exact h.written_fromFor ha
    | unit hname => exact h.written_unit ha hname
  · exact rfl

end Kept

end Registry

end FlinkSql
