import FlinkSql.Proofs.Expr.References
import FlinkSql.Proofs.Function.Standard
import Mathlib.Data.List.Basic

/-!
# Other names for parameters

A parameter is known by its row type; its name is for people. `Expr.renamed` gives all parameters of an expression other names, of
which several may be the same. What is written with the standard registry stays the same text, and what has no SQL fails with the
same kind of failure: only the words of a message show a name.
-/

namespace FlinkSql

/-! ## Outcomes up to the words of failures -/

/-- An outcome of which only the kind of the failure is known. -/
def upToKind {α : Type} (x : Except Failure α) : Except FailureKind α := x.mapError Failure.kind

/-- Steps one after the other have outcomes of one kind if the first steps have, and the second ones after each value. -/
theorem upToKind_bind {α β : Type} {x y : Except Failure α} {f g : α → Except Failure β} (h : upToKind x = upToKind y)
    (hfg : ∀ a, upToKind (f a) = upToKind (g a)) : upToKind (x >>= f) = upToKind (y >>= g) := by
  cases x with
  | ok a =>
    cases y with
    | ok b =>
      cases Except.ok.inj h
      exact hfg a
    | error f => cases h
  | error f =>
    cases y with
    | ok b => cases h
    | error f' => exact congrArg Except.error (Except.error.inj h)

/-- Steps in a row have outcomes of one kind if they have element by element. -/
theorem upToKind_mapM {α β γ : Type} {f : α → Except Failure γ} {g : β → Except Failure γ} {k : β → α} {l : List β}
    (h : ∀ b ∈ l, upToKind (f (k b)) = upToKind (g b)) : upToKind ((l.map k).mapM f) = upToKind (l.mapM g) := by
  induction l with
  | nil => rfl
  | cons b l ih =>
    obtain ⟨hhead, hrest⟩ := List.forall_mem_cons.mp h
    rw [List.map_cons, List.mapM_cons, List.mapM_cons]
    exact upToKind_bind hhead fun c => upToKind_bind (ih hrest) fun cs => rfl

/-! ## Renaming -/

/-- The parameter under another name. -/
def Param.renamed (r : String → String) (p : Param) : Param := ⟨r p.name, p.row⟩

mutual

/-- The expression with other names for its parameters. -/
def Expr.renamed (r : String → String) : Expr → Expr
  | .literal v => .literal v
  | .column p name => .column (p.renamed r) name
  | .row p => .row (p.renamed r)
  | .member target name => .member (target.renamed r) name
  | .unary op operand => .unary op (operand.renamed r)
  | .binary op left right => .binary op (left.renamed r) (right.renamed r)
  | .conditional test yes no => .conditional (test.renamed r) (yes.renamed r) (no.renamed r)
  | .coalesce left right => .coalesce (left.renamed r) (right.renamed r)
  | .call f none args => .call f none (renamedArgs r args)
  | .call f (some receiver) args => .call f (some (receiver.renamed r)) (renamedArgs r args)
  | .record members => .record (renamedMembers r members)

/-- The arguments with other names for their parameters. -/
def renamedArgs (r : String → String) : List Expr → List Expr
  | [] => []
  | e :: rest => e.renamed r :: renamedArgs r rest

/-- The members with other names for their parameters. -/
def renamedMembers (r : String → String) : List (String × Expr) → List (String × Expr)
  | [] => []
  | (name, e) :: rest => (name, e.renamed r) :: renamedMembers r rest

end

namespace Expr

variable {r : String → String}

/-- Arguments are renamed one by one. -/
theorem renamedArgs_eq (args : List Expr) : renamedArgs r args = args.map (renamed r) := by
  induction args with
  | nil => rfl
  | cons e rest ih => rw [renamedArgs, List.map_cons, ih]

theorem renamedMembers_eq (members : List (String × Expr)) :
    renamedMembers r members = members.map fun m => (m.1, m.2.renamed r) := by
  induction members with
  | nil => rfl
  | cons m rest ih => rw [renamedMembers, List.map_cons, ih]

/-- A call is renamed in its receiver and its arguments; the function stays. -/
theorem renamed_call (f : FunctionName) (receiver : Option Expr) (args : List Expr) :
    (call f receiver args).renamed r = .call f (receiver.map (renamed r)) (args.map (renamed r)) := by
  cases receiver with
  | none => rw [renamed, renamedArgs_eq]; rfl
  | some e => rw [renamed, renamedArgs_eq]; rfl

/-- A record is renamed in its values. -/
theorem renamed_record (members : List (String × Expr)) :
    (record members).renamed r = .record (members.map fun m => (m.1, m.2.renamed r)) := by
  rw [renamed, renamedMembers_eq]

/-- Renaming the receiver and the arguments is renaming the parts. -/
theorem parts_map (receiver : Option Expr) (args : List Expr) :
    parts (receiver.map (renamed r)) (args.map (renamed r)) = (parts receiver args).map (renamed r) := by
  rw [parts, parts, List.map_append, Option.toList_map]

/-- The parts of a renamed expression are the renamed parts. -/
theorem children_renamed (e : Expr) : (e.renamed r).children = e.children.map (renamed r) := by
  cases e with
  | call f receiver args => rw [renamed_call, children, children, parts_map]
  | record members => rw [renamed_record, children, children, List.map_map, List.map_map]; rfl
  | _ => rw [renamed]; rfl

/-- The nodes of a renamed expression are the renamed nodes. -/
theorem nodes_renamed (e : Expr) : (e.renamed r).nodes = e.nodes.map (renamed r) := by
  induction e using induction_children with
  | step e ih =>
    rw [nodes_eq, children_renamed, List.flatMap_map, nodes_eq e, List.map_cons, List.map_flatMap]
    exact congrArg _ (List.flatMap_congr ih)

/-- Renaming makes no expression NULL, and leaves NULL as it is. -/
theorem isNull_renamed (e : Expr) : (e.renamed r).isNull = e.isNull := by
  cases e with
  | call f receiver args =>
    rw [renamed_call]
    rfl
  | record members =>
    rw [renamed_record]
    rfl
  | literal v => rw [renamed]
  | _ =>
    rw [renamed]
    rfl

/-- Renamed operands are compared in the same form. -/
theorem comparisonForm_renamed (op : BinaryOp) (left right : Expr) :
    comparisonForm op (left.renamed r) (right.renamed r) = comparisonForm op left right := by
  rw [comparisonForm, comparisonForm, isNull_renamed, isNull_renamed]

/-- A rewriting whose answers go along with the renaming goes along with it. -/
theorem rewrite_renamed {f g : Expr → Option Expr} (h : ∀ n : Expr, g (n.renamed r) = (f n).map (renamed r)) (e : Expr) :
    (e.renamed r).rewrite g = (e.rewrite f).renamed r := by
  induction e using Expr.induction_children with
  | step e ih =>
    cases hanswer : f e with
    | some replacement =>
      rw [rewrite_of_some hanswer]
      exact rewrite_of_some (by rw [h, hanswer]; rfl)
    | none =>
      have hnone : g (e.renamed r) = none := by
        rw [h, hanswer]
        rfl
      have hfirst : ∀ {child others}, e.children = child :: others → (child.renamed r).rewrite g = (child.rewrite f).renamed r :=
        fun hparts => ih _ (hparts ▸ List.mem_cons_self)
      have hsecond : ∀ {child other others}, e.children = child :: other :: others →
          (other.renamed r).rewrite g = (other.rewrite f).renamed r :=
        fun hparts => ih _ (hparts ▸ List.mem_cons_of_mem _ List.mem_cons_self)
      cases e with
      | literal v | column p name | row p =>
        rw [renamed] at hnone ⊢
        rw [rewrite, hnone, rewrite, hanswer, renamed]
      | member target name | unary op operand =>
        rw [renamed] at hnone ⊢
        rw [rewrite, hnone, rewrite, hanswer, renamed, hfirst rfl]
      | binary op left right | coalesce left right =>
        rw [renamed] at hnone ⊢
        rw [rewrite, hnone, rewrite, hanswer, renamed, hfirst rfl, hsecond rfl]
      | conditional test yes no =>
        have hthird := ih no (List.mem_cons_of_mem _ (List.mem_cons_of_mem _ List.mem_cons_self))
        rw [renamed] at hnone ⊢
        rw [rewrite, hnone, rewrite, hanswer, renamed, hfirst rfl, hsecond rfl, hthird]
      | call k receiver args =>
        have hargs := List.map_congr_left fun e he => ih e (List.mem_append_right _ he)
        rw [renamed_call] at hnone ⊢
        rw [rewrite_call hnone, rewrite_call hanswer, renamed_call, List.map_map, List.map_map]
        cases receiver with
        | none => exact congrArg _ hargs
        | some e =>
          have hreceiver := ih e (List.mem_append_left _ List.mem_cons_self)
          exact congr (congrArg _ (congrArg some hreceiver)) hargs
      | record members =>
        have hmembers : ∀ m ∈ members, (m.1, (m.2.renamed r).rewrite g) = (m.1, (m.2.rewrite f).renamed r) :=
          fun m hm => congrArg (Prod.mk m.1) (ih m.2 (List.mem_map_of_mem hm))
        rw [renamed_record] at hnone ⊢
        rw [rewrite_record hnone, rewrite_record hanswer, renamed_record, List.map_map, List.map_map]
        exact congrArg _ (List.map_congr_left hmembers)

end Expr

/-! ## Calls -/

/-- The call with other names for the parameters of its receiver and arguments. -/
def Arguments.renamed (r : String → String) (a : Arguments) : Arguments :=
  ⟨⟨a.call.function, a.call.receiver.map (Expr.renamed r), a.call.args.map (Expr.renamed r)⟩, a.rendered⟩

/-- No rule of the registry looks at the name of a parameter. -/
def Registry.NameBlind (functions : Registry) : Prop :=
  ∀ (r : String → String) (a : Arguments), functions.write (a.renamed r) = functions.write a

namespace Arguments

variable {r : String → String}

/-- The name of the function does not show parameters. -/
theorem qualifiedName_renamed (a : Arguments) : (a.renamed r).call.qualifiedName = a.call.qualifiedName := by
  rw [Call.qualifiedName, Call.qualifiedName, renamed, List.length_map]

theorem raw_renamed (a : Arguments) (index : Nat) : (a.renamed r).raw index = (a.raw index).map (Expr.renamed r) := by
  rw [Expr.raw_eq, Expr.raw_eq, ← List.getElem?_map, ← Expr.parts_map]
  rfl

theorem sql_renamed (a : Arguments) (index : Nat) : (a.renamed r).sql index = a.sql index := by
  rw [sql, sql, qualifiedName_renamed]
  rfl

/-- A string literal has no parameters. -/
theorem stringLiteral?_renamed (a : Arguments) (index : Nat) : (a.renamed r).stringLiteral? index = a.stringLiteral? index := by
  rw [stringLiteral?, stringLiteral?, raw_renamed]
  cases a.raw index with
  | none => rfl
  | some e =>
    cases e with
    | call f receiver args =>
      rw [Option.map_some, Expr.renamed_call]
    | record members =>
      rw [Option.map_some, Expr.renamed_record]
    | _ => rw [Option.map_some, Expr.renamed]

end Arguments

section Rules

variable (r : String → String) (a : Arguments)

/-- A template is filled with the same texts. -/
theorem Template.fill_renamed (template : String) : Template.fill template (a.renamed r) = Template.fill template a := by
  have hargument : ∀ digits, Template.argument template (a.renamed r) digits = Template.argument template a digits := by
    intro digits
    rw [Template.argument, Template.argument, Arguments.sql_renamed]
  have hpieces : ∀ pieces, Template.fillPieces template (a.renamed r) pieces = Template.fillPieces template a pieces := by
    intro pieces
    induction pieces with
    | nil => rfl
    | cons piece rest ih =>
      cases piece with
      | char c => rw [Template.fillPieces, Template.fillPieces, ih]
      | slot digits => rw [Template.fillPieces, Template.fillPieces, ih, hargument]
      | broken => rw [Template.fillPieces, Template.fillPieces, Arguments.qualifiedName_renamed]
  rw [Template.fill, Template.fill, hpieces]

/-- A pattern is written from a literal or from the SQL of the argument, so renaming does not show. -/
theorem Like.write_renamed (before after : Bool) : Like.write before after (a.renamed r) = Like.write before after a := by
  rw [Like.write, Like.write, Arguments.sql_renamed, Arguments.stringLiteral?_renamed, Arguments.sql_renamed]

/-- An offset is written from a literal or from the SQL of the argument. -/
theorem Offset.oneBased_renamed (index : Nat) : Offset.oneBased (a.renamed r) index = Offset.oneBased a index := by
  rw [Offset.oneBased, Offset.oneBased, Arguments.raw_renamed, Arguments.sql_renamed]
  cases a.raw index with
  | none => rfl
  | some e =>
    cases e with
    | call f receiver args => rw [Option.map_some, Expr.renamed_call]
    | record members => rw [Option.map_some, Expr.renamed_record]
    | _ => rw [Option.map_some, Expr.renamed]

/-- The rest of a text behind an offset is written alike. -/
theorem Offset.writeFrom_renamed : Offset.writeFrom (a.renamed r) = Offset.writeFrom a := by
  rw [Offset.writeFrom, Offset.writeFrom, Arguments.sql_renamed, Offset.oneBased_renamed]

/-- A part of a text is written alike. -/
theorem Offset.writeFromFor_renamed : Offset.writeFromFor (a.renamed r) = Offset.writeFromFor a := by
  rw [Offset.writeFromFor, Offset.writeFromFor, Arguments.sql_renamed, Offset.oneBased_renamed, Arguments.sql_renamed]

/-- A call with a unit of time is written alike: the unit is a literal. -/
theorem TimeUnit.writeCall_renamed (sqlName : String) :
    TimeUnit.writeCall sqlName (a.renamed r) = TimeUnit.writeCall sqlName a := by
  have hunit : TimeUnit.ofArgument (a.renamed r) 0 = TimeUnit.ofArgument a 0 := by
    rw [TimeUnit.ofArgument, TimeUnit.ofArgument, Arguments.stringLiteral?_renamed, Arguments.qualifiedName_renamed]
  rw [TimeUnit.writeCall, TimeUnit.writeCall, hunit, Arguments.sql_renamed, Arguments.sql_renamed]

end Rules

/-- The rules of the standard registry look at literals only. -/
theorem Registry.nameBlind_standard : standard.NameBlind := by
  intro r a
  have hshape : (a.renamed r).call.shape = a.call.shape := by
    rw [Call.shape, Call.shape, Arguments.renamed, List.length_map]
  rw [write, write, hshape, Arguments.qualifiedName_renamed]
  split
  · rfl
  · rfl
  · exact Template.fill_renamed r a _
  · rename_i writer hrule
    cases isStandard_of_rule? hrule with
    | like => exact Like.write_renamed r a _ _
    | rest => exact Offset.writeFrom_renamed r a
    | part => exact Offset.writeFromFor_renamed r a
    | unit => exact TimeUnit.writeCall_renamed r a _
  · rfl

/-! ## Expressions in SQL -/

/-- Whatever a parameter is called, its alias is that of its row type. -/
theorem Aliases.resolve_renamed (r : String → String) (aliases : Aliases) (p : Param) :
    upToKind (aliases.resolve (p.renamed r)) = upToKind (aliases.resolve p) := by
  rw [resolve, resolve, Param.renamed]
  cases p.row with
  | none =>
    dsimp only
    cases aliases.output <;> rfl
  | some row =>
    dsimp only
    cases lastIndex? row aliases.sources <;> rfl

/-- An expression is written alike under all names of its parameters. -/
theorem Expr.sql_renamed {functions : Registry} (h : functions.NameBlind) (r : String → String) (aliases : Aliases) (e : Expr) :
    upToKind ((e.renamed r).sql functions aliases) = upToKind (e.sql functions aliases) := by
  induction e using Expr.induction with
  | literal v => rw [renamed]
  | column p name =>
    rw [renamed, sql, sql]
    exact upToKind_bind (aliases.resolve_renamed r p) fun _ => rfl
  | row p =>
    rw [renamed, sql, sql]
    rfl
  | member target name ih =>
    rw [renamed, sql, sql]
    split
    · rfl
    · exact upToKind_bind ih fun _ => rfl
  | unary op operand ih =>
    rw [renamed, sql, sql]
    exact upToKind_bind ih fun _ => rfl
  | binary op left right ihl ihr =>
    rw [renamed, sql, sql, comparisonForm_renamed]
    split
    · exact upToKind_bind ihl fun _ => rfl
    · exact upToKind_bind ihr fun _ => rfl
    · exact upToKind_bind ihl fun _ => upToKind_bind ihr fun _ => rfl
  | conditional test yes no iht ihy ihn =>
    rw [renamed, sql, sql]
    exact upToKind_bind iht fun _ => upToKind_bind ihy fun _ => upToKind_bind ihn fun _ => rfl
  | coalesce left right ihl ihr =>
    rw [renamed, sql, sql]
    exact upToKind_bind ihl fun _ => upToKind_bind ihr fun _ => rfl
  | call f receiver args ihr iha =>
    rw [renamed_call, sql_call, sql_call, parts_map]
    refine upToKind_bind (upToKind_mapM (forall_mem_parts.mpr ⟨ihr, iha⟩)) fun rendered => ?_
    exact congrArg upToKind (h r ⟨⟨f, receiver, args⟩, rendered⟩)
  | record members _ =>
    rw [renamed_record, sql, sql]

end FlinkSql
