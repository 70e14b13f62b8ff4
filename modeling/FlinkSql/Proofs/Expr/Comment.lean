import FlinkSql.Proofs.Expr.Positional
import FlinkSql.Proofs.Function.Comment

/-!
# Comments in expressions

A minus sign is written right in front of its operand. So an operand that begins with a minus sign itself, such as a negative
literal, opens a comment there, and the rest of the statement is lost. Nowhere else does an expression begin a comment: every other
form composes the SQL of its parts with calm pieces, whatever texts and names the expression holds.
-/

namespace FlinkSql

open Text

/-! ## Literals -/

namespace Literal

/-- Whether the literal is written with a minus sign. -/
def isNegative : Literal → Bool
  | .integer n => n.toInt < 0
  | .float x => Number.isNegative x
  | .decimal text => text.toList.head? == some '-'
  | _ => false

/-- A literal is written as a calm text. -/
theorem calm_sql {v : Literal} {text : String} (h : v.sql = .ok text) : Calm text := by
  cases v with
  | null =>
    cases h
    rfl
  | boolean value => cases value <;> cases h <;> rfl
  | integer n =>
    cases h
    exact calm_of_numeral (Number.numeral_int _)
  | float x =>
    rw [sql] at h
    split at h
    · rename_i hfinite
      cases h
      exact calm_of_numeral (Number.numeral_numberText hfinite)
    · cases h
  | decimal d =>
    rw [sql] at h
    split at h
    · rename_i hdecimal
      cases h
      exact calm_of_numeral (numeral_of_isDecimal hdecimal)
    · cases h
  | string s =>
    cases h
    exact calm_quoted (by decide) s
  | timestamp t =>
    cases h
    have hstays : StaysInside t.sqlText.toList := read_inside fun hmem => unmarked_timestamp t singleQuote hmem (by decide)
    exact hstays.calm rfl rfl

/-- A number with a sign begins with it, and one without a sign does not. -/
theorem beginsWithMinus_signed {text : String} {sign : Bool} {s : List Char} (hs : Number.Magnitude s)
    (htext : text.toList = (if sign then "-" else "").toList ++ s) : BeginsWithMinus text ↔ sign = true := by
  rw [BeginsWithMinus, htext]
  cases sign with
  | true => exact ⟨fun _ => rfl, fun _ => rfl⟩
  | false =>
    refine ⟨fun h => ?_, fun h => absurd h Bool.false_ne_true⟩
    exact absurd (hs.numeric '-' (List.mem_of_mem_head? h)) (by decide)

/-- The negative literals begin with a minus sign, and no others. -/
theorem beginsWithMinus_sql {v : Literal} {text : String} (h : v.sql = .ok text) : BeginsWithMinus text ↔ v.isNegative = true := by
  have hother : ∀ {text : String}, Unsigned text → (BeginsWithMinus text ↔ false = true) := fun htext =>
    ⟨fun h => absurd h htext.not_beginsWithMinus, nofun⟩
  cases v with
  | null =>
    cases h
    exact hother ⟨'N', rfl, by decide⟩
  | boolean value =>
    cases value with
    | true =>
      cases h
      exact hother ⟨'T', rfl, by decide⟩
    | false =>
      cases h
      exact hother ⟨'F', rfl, by decide⟩
  | integer n =>
    cases h
    refine beginsWithMinus_signed (Number.magnitude_digits n.toInt.natAbs) ?_
    rw [Number.toList_int]
    simp only [isNegative, decide_eq_true_eq]
  | float x =>
    rw [sql] at h
    split at h
    · rename_i hfinite
      cases h
      obtain ⟨s, hs, htext⟩ := Number.toList_numberText hfinite
      exact beginsWithMinus_signed hs htext
    · cases h
  | decimal d =>
    rw [sql] at h
    split at h
    · cases h
      rw [BeginsWithMinus, isNegative, beq_iff_eq]
    · cases h
  | string s =>
    cases h
    exact hother ⟨singleQuote, by rw [quotedString, quoted, String.toList_ofList]; rfl, by decide⟩
  | timestamp t =>
    cases h
    have hopen : Unsigned "TIMESTAMP '" := ⟨'T', rfl, by decide⟩
    exact hother ((hopen.append _).append _)

end Literal

/-! ## Columns -/

/-- Where the output row goes by the alias of a source, each parameter does. -/
theorem Aliases.resolve_eq_tableAlias {aliases : Aliases} (ha : ∀ output ∈ aliases.output, ∃ i, output = tableAlias i)
    {p : Param} {source : String} (h : aliases.resolve p = .ok source) : ∃ i, source = tableAlias i := by
  unfold resolve at h
  split at h
  · split at h
    · cases h
      exact ⟨_, rfl⟩
    · cases h
  · split at h
    · rename_i output houtput
      cases h
      exact ha _ houtput
    · cases h

theorem calm_column (i : Nat) (name : String) : Calm (tableAlias i ++ "." ++ Name.quotedColumn name) := by
  have htable : Calm "t" := rfl
  have hdot : Calm "." := rfl
  have hindex : Calm (toString i) := by
    refine calm_of_numeral ?_
    rw [Number.toList_nat]
    exact .positive (Number.magnitude_digits i)
  have hname : Calm (Name.quotedColumn name) := calm_quoted (by decide) _
  exact ((htable.append hindex).append hdot).append hname

namespace Expr

variable {aliases : Aliases} {e : Expr} {text : String}

/-! ## What begins with a minus sign -/

/-- An expression whose SQL begins with a minus sign: a negative literal, or an element of such an array. -/
inductive LeadsWithMinus : Expr → Prop
  | literal {v : Literal} (h : v.isNegative = true) : LeadsWithMinus (.literal v)
  | element {receiver : Option Expr} {args : List Expr} {array : Expr} (hfirst : (parts receiver args)[0]? = some array)
      (h : LeadsWithMinus array) : LeadsWithMinus (.call Registry.elementAt receiver args)

/-- No form begins with a minus sign. -/
theorem unsigned_of_form {form : Form} (hform : e.form? = some form) (h : e.sql .standard aliases = .ok text) : Unsigned text := by
  have hopenings : ∀ words ∈ openings, words.toList.head?.any (· ≠ '-') = true := by decide
  have hhead := hopenings _ (isKnown_of_form hform).opening
  rw [Option.any_eq_true] at hhead
  obtain ⟨c, hc, hne⟩ := hhead
  have hopening : Unsigned form.opening := ⟨c, hc, of_decide_eq_true hne⟩
  obtain ⟨texts, -, rfl⟩ := eq_of_form hform h
  exact (hopening.append _).append _

/-- What the text of a call begins with. -/
theorem beginsWithMinus_call {f : FunctionName} {receiver : Option Expr} {args : List Expr}
    (h : (call f receiver args).sql .standard aliases = .ok text)
    (ih : ∀ part ∈ parts receiver args, ∀ t, part.sql .standard aliases = .ok t → (BeginsWithMinus t ↔ part.LeadsWithMinus)) :
    BeginsWithMinus text ↔ (call f receiver args).LeadsWithMinus := by
  rw [sql_call] at h
  obtain ⟨rendered, hrendered, h⟩ := bind_eq_ok.mp h
  by_cases hf : f = Registry.elementAt
  · subst hf
    rw [Registry.beginsWithMinus_elementAt rfl h]
    rcases getElem?_of_mapM_eq_ok hrendered 0 with ⟨hnone, hrendered⟩ | ⟨array, t, hfirst, ht, hsql⟩
    · rw [hrendered]
      constructor
      · rintro ⟨_, ⟨⟩, -⟩
      · rintro (- | ⟨hfirst, -⟩)
        cases hnone.symm.trans hfirst
    · rw [ht]
      have hpart := ih array (List.mem_of_getElem? hfirst) t hsql
      constructor
      · rintro ⟨_, ⟨⟩, hminus⟩
        exact .element hfirst (hpart.mp hminus)
      · rintro (- | ⟨hfirst', hminus⟩)
        cases hfirst.symm.trans hfirst'
        exact ⟨t, rfl, hpart.mpr hminus⟩
  · refine iff_of_false (Registry.unsigned_write hf h).not_beginsWithMinus ?_
    rintro ⟨⟩
    exact hf rfl

/-- The SQL of an expression begins with a minus sign where the expression says so. -/
theorem beginsWithMinus_sql (ha : ∀ output ∈ aliases.output, ∃ i, output = tableAlias i) {e : Expr}
    (h : e.sql .standard aliases = .ok text) : BeginsWithMinus text ↔ e.LeadsWithMinus := by
  induction e using Expr.induction_children generalizing text with
  | step e ih =>
    cases e using sqlCases with
    | literal v =>
      rw [Expr.sql] at h
      rw [Literal.beginsWithMinus_sql h]
      exact ⟨.literal, fun h => by cases h; assumption⟩
    | column p name =>
      rw [Expr.sql] at h
      obtain ⟨source, hsource, h⟩ := bind_eq_ok.mp h
      obtain ⟨i, rfl⟩ := aliases.resolve_eq_tableAlias ha hsource
      cases h
      have htable : Unsigned "t" := ⟨'t', rfl, by decide⟩
      exact iff_of_false (((htable.append _).append _).append _).not_beginsWithMinus (by rintro ⟨⟩)
    | call f receiver args => exact beginsWithMinus_call h fun part hpart t ht => ih part hpart ht
    | form e form hform =>
      refine iff_of_false (unsigned_of_form hform h).not_beginsWithMinus fun hleads => ?_
      -- a literal and a call have no form
      cases hleads <;> cases hform
    | unwritten e failure _ hnone => cases (hnone _ _).symm.trans h

/-! ## Parts of the SQL -/

/-- Each call of a method has a receiver, and no other call has one. -/
def IsShaped (e : Expr) : Prop := ∀ f receiver args, .call f receiver args ∈ e.nodes → Call.IsShaped ⟨f, receiver, args⟩

/-- The SQL of an expression is composed of that of its parts. A shaped expression shows all of them but literals. -/
structure ComposedOf (aliases : Aliases) (e : Expr) (shown : List String) (text : String) : Prop where
  composed : Composed shown text
  part : ∀ t ∈ shown, ∃ child ∈ e.children, child.sql .standard aliases = .ok t
  complete : e.IsShaped → ∀ child ∈ e.children, ∀ t, child.sql .standard aliases = .ok t → t ∈ shown ∨ ∃ v, child = .literal v

/-- A text composed of the SQL of all parts. -/
theorem composedOf_all {e : Expr} {shown : List String} (hcomposed : Composed shown text)
    (h : List.Forall₂ (fun child t => child.sql .standard aliases = .ok t) e.children shown) : ComposedOf aliases e shown text := by
  refine ⟨hcomposed, exists_of_forall₂ h.flip, fun _ child hchild t ht => Or.inl ?_⟩
  obtain ⟨t', ht', hsql⟩ := exists_of_forall₂ h child hchild
  cases hsql.symm.trans ht
  exact ht'

/-- The parts of a call and their SQL, position by position. -/
theorem composedOf_call {f : FunctionName} {receiver : Option Expr} {args : List Expr}
    (h : (call f receiver args).sql .standard aliases = .ok text) :
    ∃ shown, ComposedOf aliases (.call f receiver args) shown text := by
  rw [sql_call] at h
  obtain ⟨rendered, hrendered, h⟩ := bind_eq_ok.mp h
  obtain ⟨shown, hcomposed, hmem, hcomplete⟩ := Registry.shows_write h
  refine ⟨shown, hcomposed, fun t ht => ?_, fun hshaped child hchild t ht => ?_⟩
  · obtain ⟨i, hi⟩ := List.mem_iff_getElem?.mp (hmem t ht)
    rcases getElem?_of_mapM_eq_ok hrendered i with ⟨-, hnone⟩ | ⟨child, t', hchild, ht', hsql⟩
    · cases hnone.symm.trans hi
    · cases ht'.symm.trans hi
      exact ⟨child, List.mem_of_getElem? hchild, hsql⟩
  · have hlength := length_of_mapM_eq_ok hrendered
    have harity := (hshaped f receiver args (mem_nodes_self _)).arity_eq
    obtain ⟨i, hi⟩ := List.mem_iff_getElem?.mp hchild
    rcases getElem?_of_mapM_eq_ok hrendered i with ⟨hnone, -⟩ | ⟨child', t', hchild', ht', hsql⟩
    · cases hnone.symm.trans hi
    · cases hchild'.symm.trans hi
      cases hsql.symm.trans ht
      refine (hcomplete (hlength.trans harity.symm) i t ht').imp id ?_
      rintro ⟨v, hv⟩
      rw [raw_eq, hchild'] at hv
      exact ⟨v, Option.some.inj hv⟩

/-- Between calm words, segments compose their text of the SQL of the parts. -/
theorem composed_segments {segments : List Segment} {texts : List String}
    (hcalm : ∀ words, .words words ∈ segments → Calm words)
    (h : List.Forall₂ (fun segment t => segment.sql .standard aliases = .ok t) segments texts) :
    ∃ shown, Composed shown (String.join texts) ∧
      (∀ t ∈ shown, ∃ child, .part child ∈ segments ∧ child.sql .standard aliases = .ok t) ∧
      ∀ child, .part child ∈ segments → ∃ t ∈ shown, child.sql .standard aliases = .ok t := by
  induction h with
  | nil =>
    have hempty : Calm "" := rfl
    exact ⟨[], hempty.composed, fun t ht => absurd ht List.not_mem_nil, fun child hchild => absurd hchild List.not_mem_nil⟩
  | @cons segment t segments texts hhead hrest ih =>
    obtain ⟨shown, hcomposed, hpart, hcomplete⟩ := ih fun words hwords => hcalm words (List.mem_cons_of_mem _ hwords)
    have hpart' : ∀ t ∈ shown, ∃ child, .part child ∈ segment :: segments ∧ child.sql .standard aliases = .ok t := by
      intro t ht
      obtain ⟨child, hchild, hsql⟩ := hpart t ht
      exact ⟨child, List.mem_cons_of_mem _ hchild, hsql⟩
    rw [String.join_cons]
    cases segment with
    | words words =>
      cases hhead
      refine ⟨shown, (hcalm _ List.mem_cons_self).composed.append hcomposed, hpart', fun child hchild => ?_⟩
      rcases List.mem_cons.mp hchild with heq | hmem
      · cases heq
      · exact hcomplete child hmem
    | part child =>
      refine ⟨t :: shown, (composed_part t).append hcomposed, ?_, fun other hother => ?_⟩
      · exact List.forall_mem_cons.mpr ⟨⟨child, List.mem_cons_self, hhead⟩, hpart'⟩
      · rcases List.mem_cons.mp hother with heq | hmem
        · cases heq
          exact ⟨t, List.mem_cons_self, hhead⟩
        · obtain ⟨u, hu, hsql⟩ := hcomplete other hmem
          exact ⟨u, List.mem_cons_of_mem _ hu, hsql⟩

/-- A form other than a minus sign composes its SQL of that of its parts. A comparison leaves out at most the NULL literal. -/
theorem composedOf_form {form : Form} (hform : e.form? = some form) (hminus : ∀ operand, e ≠ .unary .negate operand)
    (h : e.sql .standard aliases = .ok text) : ∃ shown, ComposedOf aliases e shown text := by
  have hopenings : ∀ words ∈ openings, words ≠ "(-" → Calm words := by decide
  -- a minus sign or a slash is calm only with the blanks around it
  have hinner : ∀ words ∈ innerWords, Calm words := by decide
  have hclosings : ∀ words ∈ closings, Calm words := by decide
  have hknown := isKnown_of_form hform
  have hopening : Calm form.opening := by
    refine hopenings _ hknown.opening fun heq => ?_
    obtain ⟨operand, hoperand⟩ := eq_negate_of_opening hform heq
    exact hminus operand hoperand
  obtain ⟨texts, htexts, rfl⟩ := eq_of_form hform h
  obtain ⟨shown, hcomposed, hpart, hcomplete⟩ := composed_segments (fun words hwords => hinner _ (hknown.inner words hwords)) htexts
  refine ⟨shown, (hopening.composed.append hcomposed).then (hclosings _ hknown.closing), fun t ht => ?_, fun _ child hchild t ht => ?_⟩
  · obtain ⟨child, hchild, hsql⟩ := hpart t ht
    exact ⟨child, child_of_part hform hchild, hsql⟩
  · rcases part_or_null hform hchild with hmem | rfl
    · obtain ⟨u, hu, hsql⟩ := hcomplete child hmem
      cases hsql.symm.trans ht
      exact Or.inl hu
    · exact Or.inr ⟨_, rfl⟩

/-- Every form but a minus sign composes its SQL of that of its parts. -/
theorem exists_composedOf (ha : ∀ output ∈ aliases.output, ∃ i, output = tableAlias i)
    (hminus : ∀ operand, e ≠ .unary .negate operand) (h : e.sql .standard aliases = .ok text) :
    ∃ shown, ComposedOf aliases e shown text := by
  cases e using sqlCases with
  | literal v =>
    rw [Expr.sql] at h
    exact ⟨[], composedOf_all (Literal.calm_sql h).composed .nil⟩
  | column p name =>
    rw [Expr.sql] at h
    obtain ⟨source, hsource, h⟩ := bind_eq_ok.mp h
    obtain ⟨i, rfl⟩ := aliases.resolve_eq_tableAlias ha hsource
    cases h
    exact ⟨[], composedOf_all (calm_column i name).composed .nil⟩
  | call f receiver args => exact composedOf_call h
  | form e form hform => exact composedOf_form hform hminus h
  | unwritten e failure _ hnone => cases (hnone _ _).symm.trans h

/-! ## Comments -/

/-- A minus sign in front of an operand that begins with one. -/
def DoublesMinus (e : Expr) : Prop := ∃ operand, .unary .negate operand ∈ e.nodes ∧ operand.LeadsWithMinus

/-- A minus sign is doubled where it is in a part, or in front of the whole operand. -/
theorem doublesMinus_iff {e : Expr} : e.DoublesMinus ↔
    (∃ operand, e = .unary .negate operand ∧ operand.LeadsWithMinus) ∨ ∃ child ∈ e.children, child.DoublesMinus := by
  simp only [DoublesMinus]
  rw [nodes_eq]
  constructor
  · rintro ⟨operand, hmem, hleads⟩
    rcases List.mem_cons.mp hmem with heq | hmem
    · exact Or.inl ⟨operand, heq.symm, hleads⟩
    · obtain ⟨child, hchild, hmem⟩ := List.mem_flatMap.mp hmem
      exact Or.inr ⟨child, hchild, operand, hmem, hleads⟩
  · rintro (⟨operand, heq, hleads⟩ | ⟨child, hchild, operand, hmem, hleads⟩)
    · exact ⟨operand, heq ▸ List.mem_cons_self, hleads⟩
    · exact ⟨operand, List.mem_cons_of_mem _ (List.mem_flatMap.mpr ⟨child, hchild, hmem⟩), hleads⟩

theorem IsShaped.child {e child : Expr} (h : e.IsShaped) (hchild : child ∈ e.children) : child.IsShaped :=
  fun f receiver args hmem => h f receiver args (mem_nodes_of_child hchild hmem)

/-- What is written is settled: it is calm where no minus sign is doubled, and a comment begins in it where one is doubled in a
shaped expression. -/
theorem settled_sql (ha : ∀ output ∈ aliases.output, ∃ i, output = tableAlias i) {e : Expr}
    (h : e.sql .standard aliases = .ok text) :
    Settled text ∧ (¬e.DoublesMinus → Calm text) ∧ (e.IsShaped → Calm text → ¬e.DoublesMinus) := by
  induction e using induction_children generalizing text with
  | step e ih =>
    by_cases hform : ∃ operand, e = .unary .negate operand
    · obtain ⟨operand, rfl⟩ := hform
      rw [Expr.sql] at h
      obtain ⟨t, ht, h⟩ := bind_eq_ok.mp h
      cases h
      obtain ⟨hsettled, hcalm, hdoubled⟩ := ih operand List.mem_cons_self ht
      obtain ⟨hminus, hiff⟩ := hsettled.minus
      rw [beginsWithMinus_sql ha ht] at hiff
      have hdoubles : (unary .negate operand).DoublesMinus ↔ operand.LeadsWithMinus ∨ operand.DoublesMinus := by
        rw [doublesMinus_iff]
        simp [children]
      rw [hdoubles, not_or]
      refine ⟨hminus, fun h => hiff.mpr ⟨hcalm h.2, h.1⟩, fun hshaped h => ?_⟩
      obtain ⟨hoperand, hleads⟩ := hiff.mp h
      exact ⟨hleads, hdoubled (hshaped.child List.mem_cons_self) hoperand⟩
    · have hdoubles : e.DoublesMinus ↔ ∃ child ∈ e.children, child.DoublesMinus := by
        rw [doublesMinus_iff]
        refine ⟨fun h => h.resolve_left ?_, Or.inr⟩
        rintro ⟨operand, heq, -⟩
        exact hform ⟨operand, heq⟩
      obtain ⟨shown, hshown⟩ := exists_composedOf ha (fun operand heq => hform ⟨operand, heq⟩) h
      have hsettled : ∀ t ∈ shown, Settled t := by
        intro t ht
        obtain ⟨child, hchild, hsql⟩ := hshown.part t ht
        exact (ih child hchild hsql).1
      have hcalm := hshown.composed.calm hsettled
      rw [hdoubles]
      refine ⟨hshown.composed.settled hsettled, fun hnone => hcalm.mpr fun t ht => ?_, ?_⟩
      · obtain ⟨child, hchild, hsql⟩ := hshown.part t ht
        exact (ih child hchild hsql).2.1 fun hdouble => hnone ⟨child, hchild, hdouble⟩
      · rintro hshaped htext ⟨child, hchild, hdouble⟩
        obtain ⟨t, ht⟩ := child_written h hchild
        rcases hshown.complete hshaped child hchild t ht with hmem | ⟨v, rfl⟩
        · exact (ih child hchild ht).2.2 (hshaped.child hchild) (hcalm.mp htext t hmem) hdouble
        · rcases doublesMinus_iff.mp hdouble with ⟨_, heq, -⟩ | ⟨_, hmem, -⟩
          · cases heq
          · cases hmem

/-- No comment begins in what is written, unless a minus sign stands in front of an operand that begins with one. In a shaped
expression one begins there. -/
theorem commentFree_sql (ha : ∀ output ∈ aliases.output, ∃ i, output = tableAlias i) {e : Expr}
    (h : e.sql .standard aliases = .ok text) :
    (¬e.DoublesMinus → CommentFree text) ∧ (e.IsShaped → (CommentFree text ↔ ¬e.DoublesMinus)) := by
  obtain ⟨hsettled, hcalm, hdoubled⟩ := settled_sql ha h
  rw [hsettled.commentFree_iff]
  exact ⟨hcalm, fun hshaped => ⟨hdoubled hshaped, hcalm⟩⟩

/-- An amount less a negative number. -/
def lessNegative : Expr := .binary .subtract (.column ⟨"o", some "Order"⟩ "Amount") (.literal (.integer (-5)))

/-- A negative number behind an operator is apart from it. -/
theorem lessNegative_commentFree :
    lessNegative.sql .standard ⟨["Order"], none⟩ = .ok "(t0.`amount` - -5)" ∧ CommentFree "(t0.`amount` - -5)" := by
  have hsql : lessNegative.sql .standard ⟨["Order"], none⟩ = .ok "(t0.`amount` - -5)" := eq_ok_of_toOption (by decide +kernel)
  have hsingle : ¬lessNegative.DoublesMinus := by
    rintro ⟨operand, hmem, -⟩
    simp [lessNegative, nodes] at hmem
  have houtput : ∀ output ∈ (none : Option String), ∃ i, output = tableAlias i := fun _ h => absurd h (Option.not_mem_none _)
  exact ⟨hsql, (commentFree_sql houtput hsql).1 hsingle⟩

/-- A negative number with a minus sign in front. -/
def minusNegative : Expr := .unary .negate (.literal (.integer (-5)))

/-- The two minus signs open a comment. -/
theorem minusNegative_comment :
    minusNegative.sql .standard ⟨["Order"], none⟩ = .ok "(--5)" ∧ ¬CommentFree "(--5)" := by
  refine ⟨eq_ok_of_toOption (by decide +kernel), fun hfree => ?_⟩
  exact hfree ['('] ['-', '-', '5', ')'] (by decide) (by decide) (Or.inl ⟨['5', ')'], rfl⟩)

end Expr

end FlinkSql
