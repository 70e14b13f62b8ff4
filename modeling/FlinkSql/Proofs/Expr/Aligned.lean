import FlinkSql.Function.Standard
import FlinkSql.Proofs.Expr.Induction
import FlinkSql.Proofs.Function.Comment

/-!
# The arguments that a rule sees

A rule sees the expressions of a call and, apart from them, their SQL. Both are looked up by position: the SQL in one list, the expressions
by counting the receiver, if there is one, in front of the arguments. `Arguments.Aligned` says that the two agree at every position. What is
handed to a registry is aligned, and nothing else matters to it. So a rule that looks at an expression to leave out its SQL, or to write it
in another form, looks at the right one.
-/

namespace FlinkSql

/-- A call as it is handed to a registry, if its receiver and its arguments have SQL. -/
def Call.handed (functions : Registry) (aliases : Aliases) (c : Call) : Except Failure Arguments := do
  let rendered ← (Expr.parts c.receiver c.args).mapM (Expr.sql functions aliases)
  return ⟨c, rendered⟩

/-! ## Alignment -/

namespace Arguments

variable {functions : Registry} {aliases : Aliases} {a : Arguments} {i : Nat} {e : Expr} {text : String}

/-- At the position stands the expression with its SQL. -/
structure Stands (functions : Registry) (aliases : Aliases) (a : Arguments) (i : Nat) (e : Expr) (text : String) : Prop where
  raw : a.raw i = some e
  rendered : a.rendered[i]? = some text
  sql : e.sql functions aliases = .ok text

/-- There are as many expressions as texts, and each text is the SQL of the expression at its position. -/
structure Aligned (functions : Registry) (aliases : Aliases) (a : Arguments) : Prop where
  present : ∀ i, (a.raw i).isSome = true ↔ i < a.rendered.length
  written : ∀ i e, a.raw i = some e → ∃ text, a.rendered[i]? = some text ∧ e.sql functions aliases = .ok text

/-- At each position stands an expression with its SQL, or nothing at all. -/
theorem Aligned.stands (h : a.Aligned functions aliases) (i : Nat) :
    (a.raw i = none ∧ a.rendered[i]? = none) ∨ ∃ e text, a.Stands functions aliases i e text := by
  cases hraw : a.raw i with
  | none =>
    have habsent : ¬i < a.rendered.length := by
      rw [← h.present i, hraw]
      exact Bool.false_ne_true
    exact Or.inl ⟨rfl, List.getElem?_eq_none (Nat.not_lt.mp habsent)⟩
  | some e =>
    obtain ⟨text, hrendered, hsql⟩ := h.written i e hraw
    exact Or.inr ⟨e, text, hraw, hrendered, hsql⟩

/-- The SQL of the parts of a call is aligned with them. -/
theorem aligned_of_mapM (h : (Expr.parts a.call.receiver a.call.args).mapM (Expr.sql functions aliases) = .ok a.rendered) :
    a.Aligned functions aliases := by
  refine ⟨fun i => ?_, fun i e hraw => ?_⟩
  · rw [Expr.raw_eq, isSome_getElem?, length_of_mapM_eq_ok h]
  · rw [Expr.raw_eq] at hraw
    rcases getElem?_of_mapM_eq_ok h i with ⟨hnone, -⟩ | ⟨part, text, hpart, htext, hsql⟩
    · cases hnone.symm.trans hraw
    · cases hpart.symm.trans hraw
      exact ⟨text, htext, hsql⟩

/-- Only the SQL of the parts of a call is aligned with them. -/
theorem Aligned.mapM (h : a.Aligned functions aliases) :
    (Expr.parts a.call.receiver a.call.args).mapM (Expr.sql functions aliases) = .ok a.rendered := by
  have hbounds : ∀ i, i < (Expr.parts a.call.receiver a.call.args).length ↔ i < a.rendered.length := by
    intro i
    rw [← h.present i, Expr.raw_eq, isSome_getElem?]
  have hlength : (Expr.parts a.call.receiver a.call.args).length = a.rendered.length :=
    Nat.le_antisymm (Nat.not_lt.mp fun hlt => Nat.lt_irrefl _ ((hbounds _).mp hlt))
      (Nat.not_lt.mp fun hlt => Nat.lt_irrefl _ ((hbounds _).mpr hlt))
  refine mapM_eq_ok_of_forall₂ (List.forall₂_iff_get.mpr ⟨hlength, fun i hi hi' => ?_⟩)
  have hraw : a.raw i = some ((Expr.parts a.call.receiver a.call.args)[i]) := by
    rw [Expr.raw_eq, List.getElem?_eq_getElem hi]
  obtain ⟨text, htext, hsql⟩ := h.written i _ hraw
  rw [List.getElem?_eq_getElem hi'] at htext
  cases htext
  exact hsql

/-- A call is handed over with the arguments that are aligned with it, and with no others. -/
theorem handed_eq_ok_iff {c : Call} : c.handed functions aliases = .ok a ↔ a.call = c ∧ a.Aligned functions aliases := by
  constructor
  · intro h
    obtain ⟨rendered, hrendered, h⟩ := bind_eq_ok.mp h
    cases h
    exact ⟨rfl, aligned_of_mapM hrendered⟩
  · rintro ⟨rfl, h⟩
    rw [Call.handed, h.mapM]
    rfl

/-- What stands at a position has its SQL there. -/
theorem Stands.sql_eq (h : a.Stands functions aliases i e text) : a.sql i = .ok text := by
  rw [Arguments.sql, h.rendered]

/-- The string literal at a position is the expression that stands there. -/
theorem Stands.stringLiteral?_eq_some_iff (h : a.Stands functions aliases i e text) {s : String} :
    a.stringLiteral? i = some s ↔ e = .literal (.string s) := by
  unfold stringLiteral?
  rw [h.raw]
  split
  · rename_i other hother
    rw [Option.some.inj hother, Option.some.injEq, Expr.literal.injEq, Literal.string.injEq]
  · rename_i hother
    exact ⟨nofun, fun he => absurd (congrArg some he) (hother s)⟩

/-- What stands at a position is no string if no string is found there. -/
theorem Stands.ne_string (h : a.Stands functions aliases i e text) (hnone : a.stringLiteral? i = none) (s : String) :
    e ≠ .literal (.string s) := by
  intro he
  cases hnone.symm.trans (h.stringLiteral?_eq_some_iff.mpr he)

end Arguments

/-! ## Rules that look at expressions -/

/-- What stands behind LIKE for an expression with its SQL: a string literal is written as a pattern, anything else between the wildcards
that are wanted. -/
def Like.patternSql (before after : Bool) (pattern : Expr) (text : String) : String :=
  match pattern with
  | .literal (.string p) =>
    "'" ++ wildcard before ++ String.ofList (escaped p.toList) ++ wildcard after ++ "' ESCAPE '" ++ String.singleton escape ++ "'"
  | _ => "CONCAT(" ++ ", ".intercalate ((if before then ["'%'"] else []) ++ [text] ++ (if after then ["'%'"] else [])) ++ ")"

/-- What is written for an offset from zero with its SQL: an integer literal is counted up if it has a successor, anything else is counted
up in SQL. -/
def Offset.counted? (offset : Expr) (text : String) : Option String :=
  match offset with
  | .literal (.integer n) => if n.toInt < Int64.maxValue.toInt then some (toString (n.toInt + 1)) else none
  | _ => some ("(" ++ text ++ " + 1)")

/-- The unit of time that a string literal names. -/
def TimeUnit.named? : Expr → Option String
  | .literal (.string name) => all.find? (Text.equalsIgnoringCase · name)
  | _ => none

namespace Arguments

variable {functions : Registry} {aliases : Aliases} {a : Arguments} {i : Nat} {e : Expr} {text : String}

/-- A test for a pattern is written from what stands in the two positions. -/
theorem Stands.write_like {receiver pattern : Expr} {r x : String} (hr : a.Stands functions aliases 0 receiver r)
    (hx : a.Stands functions aliases 1 pattern x) (before after : Bool) :
    Like.write before after a = .ok ("(" ++ r ++ " LIKE " ++ Like.patternSql before after pattern x ++ ")") := by
  rw [Like.write, hr.sql_eq]
  cases hliteral : a.stringLiteral? 1 with
  | some p =>
    have hpattern : pattern = .literal (.string p) := hx.stringLiteral?_eq_some_iff.mp hliteral
    have hquote : " LIKE '" = " LIKE " ++ "'" := by decide
    have hclose : "')" = "'" ++ ")" := by decide
    refine congrArg Except.ok ?_
    rw [hpattern, Like.patternSql, hquote, hclose]
    simp only [String.append_assoc]
  | none =>
    have hpattern := hx.ne_string hliteral
    have hconcat : " LIKE CONCAT(" = " LIKE " ++ "CONCAT(" := by decide
    have hclose : "))" = ")" ++ ")" := by decide
    have hother : Like.patternSql before after pattern x =
        "CONCAT(" ++ ", ".intercalate ((if before then ["'%'"] else []) ++ [x] ++ (if after then ["'%'"] else [])) ++ ")" := by
      unfold Like.patternSql
      split
      · exact absurd rfl (hpattern _)
      · rfl
    show (a.sql 1 >>= fun pattern => Except.ok _) = Except.ok _
    rw [hx.sql_eq]
    refine congrArg Except.ok ?_
    rw [hother, hconcat, hclose]
    simp only [String.append_assoc]

/-- A test with LIKE is written from the SQL of the receiver, and for the pattern that stands behind it. -/
theorem Aligned.write_like_iff (h : a.Aligned functions aliases) {before after : Bool} :
    Like.write before after a = .ok text ↔ ∃ receiver r pattern x,
      a.Stands functions aliases 0 receiver r ∧ a.Stands functions aliases 1 pattern x ∧
        text = "(" ++ r ++ " LIKE " ++ Like.patternSql before after pattern x ++ ")" := by
  constructor
  · intro hwrite
    obtain ⟨r, hr, hrest⟩ := bind_eq_ok.mp hwrite
    rcases h.stands 0 with ⟨-, hnone⟩ | ⟨receiver, r', hreceiver⟩
    · cases hnone.symm.trans (rendered_of_sql hr)
    rcases h.stands 1 with ⟨hraw, hnone⟩ | ⟨pattern, x, hpattern⟩
    · -- without a pattern there is neither a literal to look at nor a text to write
      rw [stringLiteral?, hraw] at hrest
      obtain ⟨x, hx, -⟩ := bind_eq_ok.mp hrest
      cases hnone.symm.trans (rendered_of_sql hx)
    · exact ⟨receiver, r', pattern, x, hreceiver, hpattern, Except.ok.inj (hwrite.symm.trans (hreceiver.write_like hpattern _ _))⟩
  · rintro ⟨receiver, r, pattern, x, hreceiver, hpattern, rfl⟩
    exact hreceiver.write_like hpattern before after

/-- What is written for a position from the expression there and its SQL, and not without them. -/
theorem Aligned.eq_ok_iff (h : a.Aligned functions aliases) {x : Except Failure String} {g : Expr → String → Option String}
    (hstands : ∀ e y, a.Stands functions aliases i e y → x.toOption = g e y)
    (hnone : a.raw i = none → a.rendered[i]? = none → x.toOption = none) :
    x = .ok text ↔ ∃ e y, a.Stands functions aliases i e y ∧ g e y = some text := by
  constructor
  · rintro rfl
    rcases h.stands i with ⟨hraw, hrendered⟩ | ⟨e, y, hey⟩
    · cases hnone hraw hrendered
    · exact ⟨e, y, hey, (hstands e y hey).symm⟩
  · rintro ⟨e, y, hey, hg⟩
    exact eq_ok_of_toOption ((hstands e y hey).trans hg)

/-- An offset is written from what stands in its position. -/
theorem Stands.oneBased (h : a.Stands functions aliases i e text) : (Offset.oneBased a i).toOption = Offset.counted? e text := by
  unfold Offset.oneBased Offset.counted?
  rw [h.raw]
  split
  · rename_i n hn
    cases hn
    simp only
    split
    · rfl
    · rfl
  · rename_i hother
    rw [h.sql_eq]
    split
    · rename_i n
      exact absurd rfl (hother n)
    · rfl

/-- An offset is counted up as the expression that it is written for. -/
theorem Aligned.oneBased_iff (h : a.Aligned functions aliases) :
    Offset.oneBased a i = .ok text ↔ ∃ e x, a.Stands functions aliases i e x ∧ Offset.counted? e x = some text := by
  refine h.eq_ok_iff (fun _ _ hstands => hstands.oneBased) fun hraw hnone => ?_
  rw [Offset.oneBased, hraw, sql, hnone]
  rfl

/-- A unit of time is written from what stands in its position. -/
theorem Stands.ofArgument (h : a.Stands functions aliases i e text) : (TimeUnit.ofArgument a i).toOption = TimeUnit.named? e := by
  unfold TimeUnit.ofArgument
  split
  · rename_i hnone
    unfold TimeUnit.named?
    split
    · exact absurd rfl (h.ne_string hnone _)
    · rfl
  · rename_i name hname
    rw [h.stringLiteral?_eq_some_iff.mp hname, TimeUnit.named?]
    split
    · rename_i unit hunit
      exact hunit.symm
    · rename_i hunit
      exact hunit.symm

/-- A unit of time is written as the literal names it in whose place it stands. -/
theorem Aligned.ofArgument_iff (h : a.Aligned functions aliases) {unit : String} :
    TimeUnit.ofArgument a i = .ok unit ↔ ∃ e x, a.Stands functions aliases i e x ∧ TimeUnit.named? e = some unit := by
  refine h.eq_ok_iff (fun _ _ hstands => hstands.ofArgument) fun hraw _ => ?_
  rw [TimeUnit.ofArgument, stringLiteral?, hraw]
  rfl

end Arguments

/-! ## Calls in expressions -/

namespace Expr

variable {functions : Registry} {aliases : Aliases}

/-- A call is written by the registry from what is handed to it. -/
theorem sql_call_eq_handed (f : FunctionName) (receiver : Option Expr) (args : List Expr) :
    (call f receiver args).sql functions aliases = Call.handed functions aliases ⟨f, receiver, args⟩ >>= functions.write := by
  rw [sql_call, Call.handed]
  simp only [bind_assoc, pure_bind]

/-- Registries that write aligned arguments alike write all expressions alike. -/
theorem sql_congr_of_aligned {functions' : Registry}
    (h : ∀ a : Arguments, a.Aligned functions aliases → functions'.write a = functions.write a) (e : Expr) :
    e.sql functions' aliases = e.sql functions aliases := by
  induction e using Expr.induction with
  | literal v => rw [sql, sql]
  | column p name => rw [sql, sql]
  | row p => rw [sql, sql]
  | member target name ih => rw [sql, sql, ih]
  | unary op operand ih => rw [sql, sql, ih]
  | binary op left right ihl ihr => rw [sql, sql, ihl, ihr]
  | conditional test yes no iht ihy ihn => rw [sql, sql, iht, ihy, ihn]
  | coalesce left right ihl ihr => rw [sql, sql, ihl, ihr]
  | call f receiver args ihr iha =>
    -- the parts are handed over alike, so both registries are asked about the same arguments, and these are aligned
    have hparts : Call.handed functions' aliases ⟨f, receiver, args⟩ = Call.handed functions aliases ⟨f, receiver, args⟩ := by
      have hsame : ∀ part ∈ parts receiver args, part.sql functions' aliases = part.sql functions aliases :=
        forall_mem_parts.mpr ⟨ihr, iha⟩
      rw [Call.handed, Call.handed, mapM_congr hsame]
    rw [sql_call_eq_handed, sql_call_eq_handed, hparts]
    cases hhanded : Call.handed functions aliases ⟨f, receiver, args⟩ with
    | error failure => rfl
    | ok a => exact h a (Arguments.handed_eq_ok_iff.mp hhanded).2
  | record members _ => rw [sql, sql]

/-- Raw and written arguments agree. A call is written from the one pair of expressions and texts that is aligned: for each position there
is an expression exactly if there is a text, and the text is its SQL. What a registry does with anything else never matters. A rule for
LIKE, for an offset or for a unit of time replaces the SQL of the expression that it has looked at. -/
theorem arguments_aligned (functions : Registry) (aliases : Aliases) :
    (∀ f receiver args, (call f receiver args).sql functions aliases =
      Call.handed functions aliases ⟨f, receiver, args⟩ >>= functions.write) ∧
    (∀ (c : Call) (a : Arguments), c.handed functions aliases = .ok a ↔ a.call = c ∧ a.Aligned functions aliases) ∧
    (∀ functions' : Registry, (∀ a : Arguments, a.Aligned functions aliases → functions'.write a = functions.write a) →
      ∀ e : Expr, e.sql functions' aliases = e.sql functions aliases) ∧
    ∀ a : Arguments, a.Aligned functions aliases →
      (∀ before after text, Like.write before after a = .ok text ↔ ∃ receiver r pattern x,
        a.Stands functions aliases 0 receiver r ∧ a.Stands functions aliases 1 pattern x ∧
          text = "(" ++ r ++ " LIKE " ++ Like.patternSql before after pattern x ++ ")") ∧
      (∀ i text, Offset.oneBased a i = .ok text ↔
        ∃ e x, a.Stands functions aliases i e x ∧ Offset.counted? e x = some text) ∧
      ∀ i unit, TimeUnit.ofArgument a i = .ok unit ↔
        ∃ e x, a.Stands functions aliases i e x ∧ TimeUnit.named? e = some unit := by
  refine ⟨sql_call_eq_handed, fun _ _ => Arguments.handed_eq_ok_iff, fun _ => sql_congr_of_aligned, fun a ha => ⟨?_, ?_, ?_⟩⟩
  · exact fun _ _ _ => ha.write_like_iff
  · exact fun _ _ => ha.oneBased_iff
  · exact fun _ _ => ha.ofArgument_iff

/-- The sources of a query on orders. -/
def orderAliases : Aliases := ⟨["Order"], none⟩

/-- The title of an order. -/
def titleColumn : Expr := .column ⟨"o", some "Order"⟩ "Title"

/-- The title from its third character on, as the standard registry sees it. -/
def titleRest : Arguments := ⟨⟨⟨.string, "substring"⟩, some titleColumn, [.literal (.integer 2)]⟩, ["t0.`title`", "2"]⟩

/-- A registry with one rule, which joins the SQL of two arguments if a check of them passes. -/
def joining (check : Arguments → Bool) : Registry :=
  ⟨[(⟨⟨.flink, "join"⟩, 2⟩, .transform fun a =>
    if check a then .ok (" || ".intercalate a.rendered) else .error (.function a.call.qualifiedName none))]⟩

/-- Joined texts are written alike, whatever is checked before. -/
theorem write_joining {check : Arguments → Bool} {a : Arguments} (h : check a = true) :
    (joining check).write a = (joining fun _ => true).write a := by
  unfold Registry.write Registry.rule? joining
  rw [List.lookup_cons, List.lookup_cons]
  cases a.call.shape == (⟨⟨.flink, "join"⟩, 2⟩ : FunctionShape) with
  | false => rfl
  | true => exact if_pos h

/-- The title between brackets, by two such joins. -/
def titleJoined : Expr :=
  .call ⟨.flink, "join"⟩ none [.call ⟨.flink, "join"⟩ none [.literal (.string "<"), titleColumn], .literal (.string ">")]

/-- The offset of a title is counted up where its SQL stands, and to check that no expression stands behind the last text is to check
nothing. -/
theorem titleRest_aligned :
    titleRest.Aligned .standard orderAliases ∧
    (∃ e x, titleRest.Stands .standard orderAliases 1 e x ∧ Offset.counted? e x = some "3") ∧
    (∀ a : Arguments, a.Aligned (joining fun _ => true) orderAliases →
      (joining fun a => (a.raw a.rendered.length).isNone).write a = (joining fun _ => true).write a) ∧
    titleJoined.sql (joining fun a => (a.raw a.rendered.length).isNone) orderAliases = .ok "'<' || t0.`title` || '>'" := by
  have hparts : (parts titleRest.call.receiver titleRest.call.args).mapM (sql .standard orderAliases) = .ok titleRest.rendered :=
    eq_ok_of_toOption (by decide +kernel)
  have hhanded : titleRest.call.handed .standard orderAliases = .ok titleRest := by
    rw [Call.handed, hparts]
    rfl
  obtain ⟨-, hiff, -, hrules⟩ := arguments_aligned .standard orderAliases
  have haligned := ((hiff _ _).mp hhanded).2
  have hchecked : ∀ a : Arguments, a.Aligned (joining fun _ => true) orderAliases →
      (joining fun a => (a.raw a.rendered.length).isNone).write a = (joining fun _ => true).write a := by
    intro a ha
    have hbehind : a.raw a.rendered.length = none :=
      Option.not_isSome_iff_eq_none.mp fun h => Nat.lt_irrefl _ ((ha.present _).mp h)
    exact write_joining (by rw [hbehind]; rfl)
  have hjoined : titleJoined.sql (joining fun _ => true) orderAliases = .ok "'<' || t0.`title` || '>'" :=
    eq_ok_of_toOption (by decide +kernel)
  refine ⟨haligned, ((hrules _ haligned).2.1 1 "3").mp (eq_ok_of_toOption (by decide +kernel)), hchecked, ?_⟩
  rw [(arguments_aligned (joining fun _ => true) orderAliases).2.2.1 _ hchecked, hjoined]

end Expr

end FlinkSql
