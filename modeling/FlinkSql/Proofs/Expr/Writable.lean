import FlinkSql.Proofs.Expr.Comment
import FlinkSql.Proofs.Function.Accepted

/-!
# Which expressions are written

What a node needs to be written does not depend on its parts (`Expr.IsWritable`): a column needs an alias, a member one of seven names,
a literal a value that SQL has, a call a rule that accepts it; a row and a record are never written. An expression is written exactly if
each of its nodes can be, for one node that cannot is enough to refuse the whole, wherever it stands. What is refused is unsupported.
-/

namespace FlinkSql

/-! ## Leaves -/

/-- What a literal needs: a double is finite, and a decimal has the form of one. -/
def Literal.IsWritable : Literal → Prop
  | .float x => Number.isFinite x = true
  | .decimal d => IsDecimalText d.toList
  | _ => True

/-- A literal is written exactly if it is writable. -/
theorem Literal.succeeds_sql_iff {v : Literal} : Succeeds v.sql ↔ v.IsWritable := by
  cases v with
  | boolean b => cases b <;> exact iff_of_true (succeeds_ok _) trivial
  | float x =>
    rw [sql, IsWritable]
    split
    · rename_i hfinite
      exact iff_of_true (succeeds_ok _) hfinite
    · rename_i hfinite
      exact iff_of_false (not_succeeds_error _) hfinite
  | decimal d =>
    rw [sql, IsWritable, ← isDecimal_iff]
    split
    · rename_i hdecimal
      exact iff_of_true (succeeds_ok _) hdecimal
    · rename_i hdecimal
      exact iff_of_false (not_succeeds_error _) hdecimal
  | _ => exact iff_of_true (succeeds_ok _) trivial

/-- The parameter has an alias: its row type is a source, or it stands for the output row where that may be referred to. -/
def Aliases.Covers (a : Aliases) (p : Param) : Prop :=
  match p.row with
  | some row => row ∈ a.sources
  | none => a.output.isSome = true

/-- A parameter has an alias exactly if its row is covered. -/
theorem Aliases.succeeds_resolve_iff {a : Aliases} {p : Param} : Succeeds (a.resolve p) ↔ a.Covers p := by
  rw [resolve, Covers]
  cases p.row with
  | some row =>
    simp only
    rw [← not_iff_not, ← lastIndex?_eq_none_iff]
    cases lastIndex? row a.sources with
    | some i => exact iff_of_false (not_not_intro (succeeds_ok _)) (Option.some_ne_none i)
    | none => exact iff_of_true (not_succeeds_error _) rfl
  | none =>
    cases a.output with
    | some output => exact iff_of_true (succeeds_ok _) rfl
    | none => exact iff_of_false (not_succeeds_error _) Bool.false_ne_true

/-- A parameter without an alias is unsupported. -/
theorem Aliases.written_resolve (a : Aliases) (p : Param) : Written (fun _ => True) (a.resolve p) := by
  unfold resolve
  split
  · split
    · trivial
    · exact rfl
  · split
    · trivial
    · exact rfl

namespace Expr

variable {aliases : Aliases}

/-! ## Nodes -/

/-- The names of the members that have SQL. -/
def memberNames : List String := ["Length", "Year", "Month", "Day", "Hour", "Minute", "Second"]

/-- A member has SQL exactly if it is in the list. -/
theorem isSome_memberForm?_iff {name : String} : (memberForm? name).isSome = true ↔ name ∈ memberNames := by
  unfold memberForm?
  split <;> simp_all [memberNames]

/-- What a node needs to be written, whatever its parts are. -/
def IsWritable (aliases : Aliases) : Expr → Prop
  | .literal v => v.IsWritable
  | .column p _ => aliases.Covers p
  | .row _ => False
  | .member _ name => name ∈ memberNames
  | .unary _ _ => True
  | .binary _ _ _ => True
  | .conditional _ _ _ => True
  | .coalesce _ _ => True
  | .call f receiver args => Call.IsAccepted ⟨f, receiver, args⟩
  | .record _ => False

/-- A call from the SQL of its parts. -/
theorem succeeds_call_iff {f : FunctionName} {receiver : Option Expr} {args : List Expr}
    (hshaped : Call.IsShaped ⟨f, receiver, args⟩)
    (hparts : ∀ part ∈ parts receiver args, Succeeds (part.sql .standard aliases)) :
    Succeeds ((call f receiver args).sql .standard aliases) ↔ Call.IsAccepted ⟨f, receiver, args⟩ := by
  obtain ⟨rendered, hrendered⟩ := succeeds_mapM_iff.mpr hparts
  rw [sql_call, succeeds_bind_of_ok hrendered]
  exact Registry.succeeds_write_iff hshaped ((length_of_mapM_eq_ok hrendered).trans hshaped.arity_eq.symm)

/-- A form is written where its parts are. -/
theorem succeeds_of_form {e : Expr} {form : Form} (hform : e.form? = some form)
    (hchildren : ∀ child ∈ e.children, Succeeds (child.sql .standard aliases)) : Succeeds (e.sql .standard aliases) := by
  rw [sql_of_form hform]
  refine (succeeds_bind fun _ _ => succeeds_ok _).mpr (succeeds_mapM_iff.mpr fun segment hsegment => ?_)
  cases segment with
  | words text => exact succeeds_ok text
  | part child => exact hchildren child (child_of_part hform hsegment)

/-- Where the parts of a node are written, the node itself decides. -/
theorem succeeds_iff_isWritable {e : Expr} (hshaped : e.IsShaped)
    (hchildren : ∀ child ∈ e.children, Succeeds (child.sql .standard aliases)) :
    Succeeds (e.sql .standard aliases) ↔ e.IsWritable aliases := by
  cases e with
  | literal v =>
    rw [Expr.sql]
    exact Literal.succeeds_sql_iff
  | column p name =>
    rw [Expr.sql, IsWritable, ← Aliases.succeeds_resolve_iff]
    exact succeeds_bind fun source _ => succeeds_ok _
  | row p =>
    rw [Expr.sql]
    exact iff_of_false (not_succeeds_error _) id
  | member target name =>
    rw [IsWritable, ← isSome_memberForm?_iff]
    cases hform : memberForm? name with
    | none =>
      rw [Expr.sql, hform]
      exact iff_of_false (not_succeeds_error _) Bool.false_ne_true
    | some form => exact iff_of_true (succeeds_of_form (by rw [form?, hform]; rfl) hchildren) rfl
  | unary op operand =>
    cases op with
    | not | negate => exact iff_of_true (succeeds_of_form rfl hchildren) trivial
  | binary op left right | conditional test yes no | coalesce left right =>
    exact iff_of_true (succeeds_of_form rfl hchildren) trivial
  | call f receiver args => exact succeeds_call_iff (hshaped f receiver args (mem_nodes_self _)) hchildren
  | record members =>
    rw [Expr.sql]
    exact iff_of_false (not_succeeds_error _) id

/-! ## Whole expressions -/

/-- A shaped expression is written exactly if each of its nodes is writable. -/
theorem succeeds_sql_iff {e : Expr} (hshaped : e.IsShaped) :
    Succeeds (e.sql .standard aliases) ↔ ∀ n ∈ e.nodes, n.IsWritable aliases := by
  induction e using induction_children with
  | step e ih =>
    have hnodes : (∀ n ∈ e.nodes, n.IsWritable aliases) ↔
        e.IsWritable aliases ∧ ∀ child ∈ e.children, Succeeds (child.sql .standard aliases) := by
      rw [nodes_eq, List.forall_mem_cons, List.forall_mem_flatMap]
      refine and_congr_right fun _ => forall₂_congr fun child hchild => ?_
      exact (ih child hchild (hshaped.child hchild)).symm
    rw [hnodes]
    constructor
    · rintro ⟨text, h⟩
      have hchildren : ∀ child ∈ e.children, Succeeds (child.sql .standard aliases) := fun child hchild => child_written h hchild
      exact ⟨(succeeds_iff_isWritable hshaped hchildren).mp ⟨text, h⟩, hchildren⟩
    · rintro ⟨hself, hchildren⟩
      exact (succeeds_iff_isWritable hshaped hchildren).mpr hself

/-- Nothing is asked of the texts, so all forms keep to it. -/
theorem formsKept_any : FormsKept .standard fun _ => True where
  literal v := by
    cases v with
    | boolean b => cases b <;> trivial
    | float x =>
      rw [Literal.sql]
      split
      · trivial
      · exact rfl
    | decimal d =>
      rw [Literal.sql]
      split
      · trivial
      · exact rfl
    | _ => trivial
  member _ _ _ _ _ := trivial
  not _ _ := trivial
  negate _ _ := trivial
  test _ _ _ _ _ := trivial
  binary _ _ _ _ _ := trivial
  conditional _ _ _ _ _ _ := trivial
  coalesce _ _ _ _ := trivial
  call _ ha := Registry.kept_any.write ha

/-- An expression that is not written is unsupported. -/
theorem unsupported_of_sql {e : Expr} {failure : Failure} (h : e.sql .standard aliases = .error failure) :
    failure.kind = .unsupported := by
  have hwritten := formsKept_any.sql e fun p _ _ => aliases.written_resolve p
  rw [h] at hwritten
  exact hwritten

/-- A shaped expression is written if each node can be. If one cannot, the whole is unsupported. -/
theorem sql_iff_writable {e : Expr} (hshaped : e.IsShaped) :
    ((∃ text, e.sql .standard aliases = .ok text) ↔ ∀ n ∈ e.nodes, n.IsWritable aliases) ∧
    ((∃ failure, e.sql .standard aliases = .error failure ∧ failure.kind = .unsupported) ↔
      ∃ n ∈ e.nodes, ¬n.IsWritable aliases) := by
  have hsucceeds : Succeeds (e.sql .standard aliases) ↔ ∀ n ∈ e.nodes, n.IsWritable aliases := succeeds_sql_iff hshaped
  refine ⟨hsucceeds, ?_⟩
  have hbad : (∃ n ∈ e.nodes, ¬n.IsWritable aliases) ↔ ∃ failure, e.sql .standard aliases = .error failure := by
    rw [← not_succeeds_iff, hsucceeds]
    push Not
    rfl
  rw [hbad]
  refine exists_congr fun failure => ?_
  exact and_iff_left_of_imp unsupported_of_sql

/-- Whether something is missing or has a percent sign in it. -/
def missingOrPercent (subject : Expr) : Expr :=
  .binary .or (.binary .eq subject (.literal .null)) (.call ⟨.string, "contains"⟩ (some subject) [.literal (.string "%")])

/-- The test is shaped if its subject is. -/
theorem isShaped_missingOrPercent {subject : Expr} (h : subject.IsShaped) : (missingOrPercent subject).IsShaped := by
  intro f receiver args hmem
  simp only [missingOrPercent, nodes, argNodes, List.mem_cons, List.mem_append, List.not_mem_nil, reduceCtorEq, or_false, false_or]
    at hmem
  rcases hmem with hmem | hcall | hmem
  · exact h f receiver args hmem
  · cases hcall
    rfl
  · exact h f receiver args hmem

/-- A column of an order. -/
def nameColumn : Expr := .column ⟨"o", some "Order"⟩ "Name"

/-- An order as a whole. -/
def orderRow : Expr := .row ⟨"o", some "Order"⟩

/-- It can be asked of a column, but not of a whole row. -/
theorem missingOrPercent_written_of_column :
    (missingOrPercent nameColumn).IsShaped ∧ (missingOrPercent orderRow).IsShaped ∧
    (∃ text, (missingOrPercent nameColumn).sql .standard ⟨["Order"], none⟩ = .ok text) ∧
    ∃ failure, (missingOrPercent orderRow).sql .standard ⟨["Order"], none⟩ = .error failure ∧ failure.kind = .unsupported := by
  have hname : (missingOrPercent nameColumn).IsShaped :=
    isShaped_missingOrPercent fun f receiver args h => by simp [nameColumn, nodes] at h
  have hrow : (missingOrPercent orderRow).IsShaped :=
    isShaped_missingOrPercent fun f receiver args h => by simp [orderRow, nodes] at h
  refine ⟨hname, hrow, (sql_iff_writable hname).1.mpr fun n hn => ?_, (sql_iff_writable hrow).2.mpr ⟨orderRow, ?_, id⟩⟩
  · have hcall : Call.IsAccepted ⟨⟨.string, "contains"⟩, some nameColumn, [.literal (.string "%")]⟩ :=
      ⟨⟨_, rfl, by rintro _ ⟨⟩⟩, fun h => absurd h (by decide), fun h => absurd h (by decide)⟩
    simp only [missingOrPercent, nameColumn, nodes, argNodes, List.mem_cons, List.mem_append, List.not_mem_nil, or_false] at hn
    rcases hn with rfl | (rfl | rfl | rfl) | rfl | rfl | rfl
    all_goals simp_all [IsWritable, Literal.IsWritable, Aliases.Covers, nameColumn]
  · simp [missingOrPercent, orderRow, nodes]

end Expr

end FlinkSql
