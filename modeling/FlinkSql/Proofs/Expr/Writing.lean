import FlinkSql.Proofs.Expr.Form

/-!
# What the SQL of an expression is made of

An expression is written form by form from the SQL of its parts. `Expr.FormsKept` lists what each form other than a column has to
do for a property of texts to hold of everything that is written, and `Expr.FormsKept.sql` is the induction that needs nothing
else but the columns of the expression. Where all columns keep to the property, `Expr.Kept.sql` is that for every expression. All
failures on the way are unsupported expressions.
-/

namespace FlinkSql

/-- The failures of expressions and of function calls. -/
def Failure.IsUnsupported (f : Failure) : Prop := f.kind = .unsupported

/-- The text that is written, if one is, is in `P`; if none is, an expression or a call is unsupported. -/
abbrev Written (P : String → Prop) : Except Failure String → Prop := Outcome Failure.IsUnsupported P

namespace Expr

/-- The column behind the alias of its parameter is in `P`, if the parameter has one. -/
abbrev ColumnKept (aliases : Aliases) (P : String → Prop) (p : Param) (name : String) : Prop :=
  Outcome Failure.IsUnsupported (fun source => P (source ++ "." ++ Name.quotedColumn name)) (aliases.resolve p)

/-- Each form of expressions other than a column keeps to `P`: its SQL is in `P` if that of its parts is. -/
structure FormsKept (functions : Registry) (P : String → Prop) : Prop where
  literal : ∀ v : Literal, Written P v.sql
  member : ∀ name form text, memberForm? name = some form → P text → P (memberSql form text)
  not : ∀ text, P text → P ("(NOT " ++ text ++ ")")
  negate : ∀ text, P text → P ("(-" ++ text ++ ")")
  test : ∀ op test text, nullTest? op = some test → P text → P ("(" ++ text ++ " " ++ test ++ ")")
  binary : ∀ (op : BinaryOp) l r, P l → P r → P ("(" ++ l ++ " " ++ op.sql ++ " " ++ r ++ ")")
  conditional : ∀ test yes no, P test → P yes → P no →
    P ("CASE WHEN " ++ test ++ " THEN " ++ yes ++ " ELSE " ++ no ++ " END")
  coalesce : ∀ l r, P l → P r → P ("COALESCE(" ++ l ++ ", " ++ r ++ ")")
  call : ∀ a : Arguments, (∀ t ∈ a.rendered, P t) → Written P (functions.write a)

/-- Each form of expressions keeps to `P`, and so do all columns. -/
structure Kept (functions : Registry) (aliases : Aliases) (P : String → Prop) : Prop extends FormsKept functions P where
  column : ∀ p name, ColumnKept aliases P p name

/-- An expression that is written has its SQL in a `P` to which the forms and its own columns keep. -/
theorem FormsKept.sql {functions : Registry} {aliases : Aliases} {P : String → Prop} (h : FormsKept functions P) (e : Expr)
    (hcolumns : ∀ p name, .column p name ∈ e.nodes → ColumnKept aliases P p name) : Written P (e.sql functions aliases) := by
  induction e using induction_children with
  | step e ih =>
    have hparts : ∀ child ∈ e.children, Written P (child.sql functions aliases) := fun child hchild =>
      ih child hchild fun p name hn => hcolumns p name (mem_nodes_of_child hchild hn)
    cases e with
    | literal v =>
      rw [Expr.sql]
      exact h.literal v
    | column p name =>
      rw [Expr.sql]
      exact (hcolumns p name (mem_nodes_self _)).bind fun _ hsource => hsource
    | row p =>
      rw [Expr.sql]
      exact rfl
    | member target name =>
      have htarget := hparts target List.mem_cons_self
      rw [Expr.sql]
      split
      · exact rfl
      · rename_i form hform
        exact htarget.bind fun text htext => h.member name form text hform htext
    | unary op operand =>
      have hoperand := hparts operand List.mem_cons_self
      rw [Expr.sql]
      refine hoperand.bind fun text htext => ?_
      cases op with
      | not => exact h.not text htext
      | negate => exact h.negate text htext
    | binary op left right =>
      have hleft := hparts left List.mem_cons_self
      have hright := hparts right (List.mem_cons_of_mem _ List.mem_cons_self)
      rw [Expr.sql]
      split
      · rename_i test hform
        exact hleft.bind fun text htext => h.test op test text (comparisonForm_testLeft hform).1 htext
      · rename_i test hform
        exact hright.bind fun text htext => h.test op test text (comparisonForm_testRight hform).1 htext
      · exact hleft.bind fun l hl => hright.bind fun r hr => h.binary op l r hl hr
    | conditional test yes no =>
      have htest := hparts test List.mem_cons_self
      have hyes := hparts yes (List.mem_cons_of_mem _ List.mem_cons_self)
      have hno := hparts no (List.mem_cons_of_mem _ (List.mem_cons_of_mem _ List.mem_cons_self))
      rw [Expr.sql]
      exact htest.bind fun t ht => hyes.bind fun y hy => hno.bind fun n hn => h.conditional t y n ht hy hn
    | coalesce left right =>
      have hleft := hparts left List.mem_cons_self
      have hright := hparts right (List.mem_cons_of_mem _ List.mem_cons_self)
      rw [Expr.sql]
      exact hleft.bind fun l hl => hright.bind fun r hr => h.coalesce l r hl hr
    | call f receiver args =>
      rw [sql_call]
      exact (Outcome.mapM hparts).bind fun rendered hrendered => h.call ⟨⟨f, receiver, args⟩, rendered⟩ hrendered
    | record members =>
      rw [Expr.sql]
      exact rfl

/-- Whatever expression is written, its SQL is in a `P` to which the forms and all columns keep. -/
theorem Kept.sql {functions : Registry} {aliases : Aliases} {P : String → Prop} (h : Kept functions aliases P) (e : Expr) :
    Written P (e.sql functions aliases) :=
  h.toFormsKept.sql e fun p name _ => h.column p name

end Expr

end FlinkSql
