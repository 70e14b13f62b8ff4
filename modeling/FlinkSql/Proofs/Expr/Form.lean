import FlinkSql.Proofs.Expr.Induction
import FlinkSql.Proofs.Outcome

/-!
# Forms with fixed words

Members, operators, conditionals and coalescing are written alike: fixed words, the SQL of the parts with fixed words between
them, and fixed words again. `Expr.form?` says once which words these are. What is proved about the words and about the parts then
holds of the SQL by `Expr.sql_of_form`, without going through the forms again; `Expr.sqlCases` leaves the literals, the columns and
the calls, which are written by rules of their own.
-/

namespace FlinkSql

namespace Expr

variable {functions : Registry} {a : Aliases} {e child : Expr} {text : String}

/-! ## Comparisons with NULL -/

/-- The NULL literal is the one expression that is null. -/
theorem isNull_iff : e.isNull = true ↔ e = .literal .null := by
  constructor
  · intro h
    unfold isNull at h
    split at h
    · rfl
    · cases h
  · rintro rfl
    rfl

/-- A test is written where the comparison has one and exactly one side is NULL. -/
theorem comparisonForm_testLeft {op : BinaryOp} {left right : Expr} {test : String}
    (h : comparisonForm op left right = .testLeft test) : nullTest? op = some test ∧ left.isNull = false ∧ right = .literal .null := by
  unfold comparisonForm at h
  split at h
  · rename_i hop hleft hright
    cases h
    exact ⟨hop, hleft, isNull_iff.mp hright⟩
  · cases h
  · cases h

/-- The same with NULL on the left. -/
theorem comparisonForm_testRight {op : BinaryOp} {left right : Expr} {test : String}
    (h : comparisonForm op left right = .testRight test) : nullTest? op = some test ∧ right.isNull = false ∧ left = .literal .null := by
  unfold comparisonForm at h
  split at h
  · cases h
  · rename_i hop hleft hright
    cases h
    exact ⟨hop, hright, isNull_iff.mp hleft⟩
  · cases h

/-- The tests for NULL. -/
def nullTests : List String := (Named.all : List BinaryOp).filterMap nullTest?

/-- The test of an operator is among the tests. -/
theorem mem_nullTests {op : BinaryOp} {test : String} (h : nullTest? op = some test) : test ∈ nullTests := by
  cases op <;> cases h <;> decide

/-- The members that have SQL, with their forms. -/
def memberForms : List (String × MemberForm) :=
  [("Length", .length), ("Year", .part "YEAR"), ("Month", .part "MONTH"), ("Day", .part "DAY"), ("Hour", .part "HOUR"),
    ("Minute", .part "MINUTE"), ("Second", .part "SECOND")]

/-- A member that has SQL is in the list. -/
theorem mem_memberForms {name : String} {form : MemberForm} (h : memberForm? name = some form) : (name, form) ∈ memberForms := by
  unfold memberForm? at h
  split at h <;> cases h <;> decide

/-! ## Forms -/

/-- What stands between the first and the last words of a form. -/
inductive Segment
  /-- Fixed words. -/
  | words (text : String)
  /-- The SQL of a part. -/
  | part (e : Expr)

/-- A segment in SQL. -/
def Segment.sql (functions : Registry) (a : Aliases) : Segment → Except Failure String
  | .words text => pure text
  | .part e => e.sql functions a

/-- How an expression is written: the first words, what stands between, and the last words. -/
structure Form where
  opening : String
  inner : List Segment
  closing : String

/-- A form in SQL. -/
def Form.sql (functions : Registry) (a : Aliases) (form : Form) : Except Failure String := do
  let texts ← form.inner.mapM (Segment.sql functions a)
  return form.opening ++ String.join texts ++ form.closing

/-- The form of a member. -/
def memberLayout (target : Expr) : MemberForm → Form
  | .length => ⟨"CHAR_LENGTH(", [.part target], ")"⟩
  | .part name => ⟨"EXTRACT(", [.words name, .words " FROM ", .part target], ")"⟩

/-- What stands between the parentheses of an operation with two operands. -/
def binarySegments (op : BinaryOp) (left right : Expr) : List Segment :=
  match comparisonForm op left right with
  | .testLeft test => [.part left, .words " ", .words test]
  | .testRight test => [.part right, .words " ", .words test]
  | .both => [.part left, .words (" " ++ op.sql ++ " "), .part right]

/-- The form of an expression, if it has one. -/
def form? : Expr → Option Form
  | .member target name => (memberForm? name).map (memberLayout target)
  | .unary .not operand => some ⟨"(NOT ", [.part operand], ")"⟩
  | .unary .negate operand => some ⟨"(-", [.part operand], ")"⟩
  | .binary op left right => some ⟨"(", binarySegments op left right, ")"⟩
  | .conditional test yes no =>
    some ⟨"CASE WHEN ", [.part test, .words " THEN ", .part yes, .words " ELSE ", .part no], " END"⟩
  | .coalesce left right => some ⟨"COALESCE(", [.part left, .words ", ", .part right], ")"⟩
  | _ => none

/-- An expression that has a form is written as the form. -/
theorem sql_of_form {form : Form} (h : e.form? = some form) : e.sql functions a = form.sql functions a := by
  cases e with
  | member target name =>
    obtain ⟨memberForm, hform, rfl⟩ := Option.map_eq_some_iff.mp h
    rw [Expr.sql, hform]
    cases memberForm <;> simp [Form.sql, memberLayout, Segment.sql, memberSql, String.join_cons, String.append_assoc]
  | unary op operand =>
    cases op <;> cases h <;> simp [Expr.sql, Form.sql, Segment.sql, String.join_cons, String.append_assoc]
  | binary op left right =>
    cases h
    rw [Expr.sql, Form.sql, binarySegments]
    cases comparisonForm op left right <;> simp [Segment.sql, String.join_cons, String.append_assoc]
  | conditional test yes no =>
    cases h
    simp [Expr.sql, Form.sql, Segment.sql, String.join_cons, String.append_assoc]
  | coalesce left right =>
    cases h
    simp [Expr.sql, Form.sql, Segment.sql, String.join_cons, String.append_assoc]
  | _ => cases h

/-- Where a form is written, each of its segments is, and the text is the words around them. -/
theorem eq_of_form {form : Form} (hform : e.form? = some form) (h : e.sql functions a = .ok text) :
    ∃ texts, List.Forall₂ (fun segment t => segment.sql functions a = .ok t) form.inner texts ∧
      text = form.opening ++ String.join texts ++ form.closing := by
  rw [sql_of_form hform] at h
  obtain ⟨texts, htexts, h⟩ := bind_eq_ok.mp h
  exact ⟨texts, forall₂_of_mapM_eq_ok htexts, (Except.ok.inj h).symm⟩

/-! ## The words of forms -/

/-- The first words of forms. -/
def openings : List String := ["CHAR_LENGTH(", "EXTRACT(", "(NOT ", "(-", "(", "CASE WHEN ", "COALESCE("]

/-- The last words of forms. -/
def closings : List String := [")", " END"]

/-- The parts of dates and times. -/
def timeParts : List String := ["YEAR", "MONTH", "DAY", "HOUR", "MINUTE", "SECOND"]

/-- The words between the parts of forms. -/
def innerWords : List String :=
  [" ", " FROM ", " THEN ", " ELSE ", ", "] ++ nullTests ++ timeParts ++ (Named.all : List BinaryOp).map (" " ++ ·.sql ++ " ")

/-- The words of a form are from the lists. -/
structure Form.IsKnown (form : Form) : Prop where
  opening : form.opening ∈ openings
  inner : ∀ words, .words words ∈ form.inner → words ∈ innerWords
  closing : form.closing ∈ closings

variable {form : Form}

/-- The part of a date or a time that a member reads is in the list. -/
theorem mem_timeParts {name part : String} (h : memberForm? name = some (.part part)) : part ∈ timeParts := by
  have hparts : ∀ m ∈ memberForms, ∀ part, m.2 = .part part → part ∈ timeParts := by
    simp [memberForms, timeParts]
  exact hparts _ (mem_memberForms h) part rfl

/-- The operator, with the blanks around it. -/
theorem mem_innerWords_op (op : BinaryOp) : " " ++ op.sql ++ " " ∈ innerWords := by
  cases op <;> decide

/-- The words between the operands of an operation are from the list. -/
theorem mem_innerWords_of_binary {op : BinaryOp} {left right : Expr} {words : String}
    (h : .words words ∈ binarySegments op left right) : words ∈ innerWords := by
  have hblank : " " ∈ innerWords := by decide
  have htest : ∀ {test}, nullTest? op = some test → test ∈ innerWords := fun hop =>
    List.mem_append_left _ (List.mem_append_left _ (List.mem_append_right _ (mem_nullTests hop)))
  unfold binarySegments at h
  split at h
  · rename_i test hform
    have hwords : words = " " ∨ words = test := by simpa using h
    rcases hwords with rfl | rfl
    · exact hblank
    · exact htest (comparisonForm_testLeft hform).1
  · rename_i test hform
    have hwords : words = " " ∨ words = test := by simpa using h
    rcases hwords with rfl | rfl
    · exact hblank
    · exact htest (comparisonForm_testRight hform).1
  · have hwords : words = " " ++ op.sql ++ " " := by simpa using h
    rw [hwords]
    exact mem_innerWords_op op

/-- Every form is made of known words. -/
theorem isKnown_of_form (h : e.form? = some form) : form.IsKnown := by
  cases e with
  | member target name =>
    obtain ⟨memberForm, hform, rfl⟩ := Option.map_eq_some_iff.mp h
    cases memberForm with
    | length => exact ⟨by simp [memberLayout, openings], by simp [memberLayout], by simp [memberLayout, closings]⟩
    | part part =>
      refine ⟨by simp [memberLayout, openings], fun words hwords => ?_, by simp [memberLayout, closings]⟩
      have hmem : words = part ∨ words = " FROM " := by simpa [memberLayout] using hwords
      rcases hmem with rfl | rfl
      · exact List.mem_append_left _ (List.mem_append_right _ (mem_timeParts hform))
      · decide
  | unary op operand =>
    cases op with
    | not | negate =>
      cases h
      exact ⟨by simp [openings], by simp, by simp [closings]⟩
  | binary op left right =>
    cases h
    exact ⟨by simp [openings], fun _ => mem_innerWords_of_binary, by simp [closings]⟩
  | conditional test yes no =>
    cases h
    exact ⟨by simp [openings], by simp [innerWords], by simp [closings]⟩
  | coalesce left right =>
    cases h
    exact ⟨by simp [openings], by simp [innerWords], by simp [closings]⟩
  | _ => cases h

/-- Only a minus sign begins with the words of a minus sign. -/
theorem eq_negate_of_opening (h : e.form? = some form) (hminus : form.opening = "(-") : ∃ operand, e = .unary .negate operand := by
  cases e with
  | member target name =>
    obtain ⟨memberForm, -, rfl⟩ := Option.map_eq_some_iff.mp h
    cases memberForm <;> exact absurd hminus (by simp [memberLayout])
  | unary op operand =>
    cases op with
    | not =>
      cases h
      exact absurd hminus (by simp)
    | negate => exact ⟨operand, rfl⟩
  | binary op left right | conditional test yes no | coalesce left right =>
    cases h
    exact absurd hminus (by simp)
  | _ => cases h

/-! ## The parts of forms -/

/-- The segments of a form are parts of the expression. -/
theorem child_of_part (h : e.form? = some form) (hpart : .part child ∈ form.inner) : child ∈ e.children := by
  cases e with
  | member target name =>
    obtain ⟨memberForm, -, rfl⟩ := Option.map_eq_some_iff.mp h
    cases memberForm <;> simpa [memberLayout, children] using hpart
  | unary op operand => cases op <;> cases h <;> simpa [children] using hpart
  | binary op left right =>
    cases h
    simp only [binarySegments] at hpart
    split at hpart <;> simp_all [children]
  | conditional test yes no =>
    cases h
    simpa [children] using hpart
  | coalesce left right =>
    cases h
    simpa [children] using hpart
  | _ => cases h

/-- A form leaves out no part but the NULL of a test. -/
theorem part_or_null (h : e.form? = some form) (hchild : child ∈ e.children) :
    .part child ∈ form.inner ∨ child = .literal .null := by
  cases e with
  | member target name =>
    obtain ⟨memberForm, -, rfl⟩ := Option.map_eq_some_iff.mp h
    cases memberForm <;> exact Or.inl (by simpa [memberLayout, children] using hchild)
  | unary op operand =>
    cases op <;> cases h <;> exact Or.inl (by simpa [children] using hchild)
  | binary op left right =>
    cases h
    have hmem : child = left ∨ child = right := by simpa [children] using hchild
    simp only [binarySegments]
    split
    · rename_i test hform
      obtain ⟨-, -, rfl⟩ := comparisonForm_testLeft hform
      exact hmem.imp (by simp) id
    · rename_i test hform
      obtain ⟨-, -, rfl⟩ := comparisonForm_testRight hform
      exact hmem.symm.imp (by simp) id
    · exact Or.inl (by simpa using hmem)
  | conditional test yes no =>
    cases h
    exact Or.inl (by simpa [children] using hchild)
  | coalesce left right =>
    cases h
    exact Or.inl (by simpa [children] using hchild)
  | _ => cases h

/-- How an expression is written: a literal, a column, a call, a form, or not at all. -/
@[elab_as_elim]
theorem sqlCases {motive : Expr → Prop} (literal : ∀ v, motive (.literal v)) (column : ∀ p name, motive (.column p name))
    (call : ∀ f receiver args, motive (.call f receiver args)) (form : ∀ e form, e.form? = some form → motive e)
    (unwritten : ∀ e failure, failure.kind = .unsupported → (∀ functions a, e.sql functions a = .error failure) → motive e)
    (e : Expr) : motive e := by
  cases e with
  | literal v => exact literal v
  | column p name => exact column p name
  | row p => exact unwritten _ (.expression (.rowAsScalar p.name)) rfl fun _ _ => by rw [Expr.sql]
  | member target name =>
    cases hform : memberForm? name with
    | none =>
      exact unwritten _ (.expression (.memberAccess target.text name)) rfl fun _ _ => by rw [Expr.sql, hform]
    | some memberForm => exact form _ (memberLayout target memberForm) (by rw [form?, hform]; rfl)
  | unary op operand => cases op <;> exact form _ _ rfl
  | binary op left right => exact form _ _ rfl
  | conditional test yes no => exact form _ _ rfl
  | coalesce left right => exact form _ _ rfl
  | call f receiver args => exact call f receiver args
  | record members => exact unwritten _ (.expression .recordAsScalar) rfl fun _ _ => by rw [Expr.sql]

/-! ## Parts that are written -/

/-- Where an expression is written, so are its parts, also the NULL literal that a test leaves out. -/
theorem child_written (h : e.sql functions a = .ok text) (hchild : child ∈ e.children) : ∃ t, child.sql functions a = .ok t := by
  cases e using sqlCases with
  | literal v => cases hchild
  | column p name => cases hchild
  | call f receiver args =>
    rw [sql_call] at h
    obtain ⟨rendered, hrendered, -⟩ := bind_eq_ok.mp h
    obtain ⟨t, -, ht⟩ := exists_of_mapM_eq_ok hrendered child hchild
    exact ⟨t, ht⟩
  | form e form hform =>
    obtain ⟨texts, htexts, -⟩ := eq_of_form hform h
    rcases part_or_null hform hchild with hpart | rfl
    · obtain ⟨t, -, ht⟩ := exists_of_forall₂ htexts _ hpart
      exact ⟨t, ht⟩
    · rw [Expr.sql]
      exact ⟨"NULL", rfl⟩
  | unwritten e failure _ hnone => cases (hnone functions a).symm.trans h

/-- Where an expression is written, so is each of its nodes. -/
theorem node_written (h : e.sql functions a = .ok text) : ∀ n ∈ e.nodes, ∃ t, n.sql functions a = .ok t := by
  induction e using induction_children generalizing text with
  | step e ih =>
    rw [nodes_eq]
    refine List.forall_mem_cons.mpr ⟨⟨text, h⟩, fun n hn => ?_⟩
    obtain ⟨child, hchild, hmem⟩ := List.mem_flatMap.mp hn
    obtain ⟨t, ht⟩ := child_written h hchild
    exact ih child hchild ht n hmem

/-- A form has a property that passes from two texts to the one after the other, if its words and its parts have it. -/
theorem outcome_of_form {K : Failure → Prop} {P : String → Prop} (hempty : P "") (happend : ∀ {s t}, P s → P t → P (s ++ t))
    (hwords : ∀ words ∈ openings ++ innerWords ++ closings, P words) (hform : e.form? = some form)
    (hchildren : ∀ child ∈ e.children, Outcome K P (child.sql functions a)) : Outcome K P (e.sql functions a) := by
  have hknown := isKnown_of_form hform
  have hsegments : ∀ segment ∈ form.inner, Outcome K P (segment.sql functions a) := by
    intro segment hsegment
    cases segment with
    | words text => exact hwords text (List.mem_append_left _ (List.mem_append_right _ (hknown.inner text hsegment)))
    | part child => exact hchildren child (child_of_part hform hsegment)
  rw [sql_of_form hform]
  refine (Outcome.mapM hsegments).bind fun texts htexts => ?_
  have hjoin : P (String.join texts) := by
    clear * - hempty happend htexts
    induction texts with
    | nil => exact hempty
    | cons t texts ih =>
      obtain ⟨hhead, hrest⟩ := List.forall_mem_cons.mp htexts
      rw [String.join_cons]
      exact happend hhead (ih hrest)
  refine happend (happend ?_ hjoin) ?_
  · exact hwords _ (List.mem_append_left _ (List.mem_append_left _ hknown.opening))
  · exact hwords _ (List.mem_append_right _ hknown.closing)

end Expr

end FlinkSql
