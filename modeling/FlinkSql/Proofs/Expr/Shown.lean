import FlinkSql.Proofs.Expr.ScalarReading
import FlinkSql.Proofs.Expr.Writing
import FlinkSql.Proofs.Name
import FlinkSql.Proofs.Number.Numeral
import FlinkSql.Proofs.Text.Unmarked

/-!
# What an expression shows in SQL

An expression without calls shows a scalar: that is all that its SQL says about it. `Expr.Shows` leaves out what is not written,
namely the kind of a literal, the name that a parameter has in the query, and the side on which NULL stands in a test. What is
shown is well-formed, so it can be read back from the SQL.
-/

namespace FlinkSql

open Text

/-! ## Words -/

namespace Scalar

/-- What stands behind the sign of a number is a word. -/
theorem isBare_of_magnitude {s : List Char} (h : Number.Magnitude s) : IsBare s := by
  refine ⟨h.nonempty, fun c hc => isBare_of_class (by decide) (h.numeric c hc), ?_⟩
  obtain ⟨c, rest, rfl⟩ := List.exists_cons_of_ne_nil h.nonempty
  have hkeyword : ∀ k : Keyword, k.chars.head?.any Number.isNumeric = false := by
    intro k
    cases k <;> rfl
  refine keyword?_of_head fun k hk => Bool.false_ne_true ?_
  rw [← hkeyword k, show k.chars.head? = some c from hk, Option.any_some, h.numeric c List.mem_cons_self]

/-- A number is a word, with its sign and without it. -/
theorem isWord_of_numeral {s : List Char} (h : Number.Numeral s) : IsWord s := by
  cases h with
  | positive h =>
    refine ⟨isBare_of_magnitude h, ?_⟩
    rintro rest rfl
    exact absurd (h.numeric '-' List.mem_cons_self) (by decide)
  | @negative s h =>
    refine ⟨⟨List.cons_ne_nil _ _, List.forall_mem_cons.mpr ⟨by decide, (isBare_of_magnitude h).bare⟩, ?_⟩, ?_⟩
    · exact keyword?_of_head fun k => by cases k <;> decide
    · rintro rest ⟨⟩
      exact isBare_of_magnitude h

/-- The literals that are written as fixed words. -/
theorem isWord_fixed {text : String} (h : text ∈ ["NULL", "TRUE", "FALSE"]) : IsWord text.toList := by
  have hbare : ∀ text ∈ ["NULL", "TRUE", "FALSE"], text.toList.all isBare = true := by decide
  have hhead : ∀ text ∈ ["NULL", "TRUE", "FALSE"], text.toList.head? ≠ some '-' := by decide
  have hfree : ∀ text ∈ ["NULL", "TRUE", "FALSE"], (keyword? text.toList).isNone = true := by decide
  have hempty : ∀ text ∈ ["NULL", "TRUE", "FALSE"], text.toList ≠ [] := by decide
  refine ⟨⟨hempty text h, List.all_eq_true.mp (hbare text h), Option.isNone_iff_eq_none.mp (hfree text h)⟩, ?_⟩
  intro rest hrest
  exact absurd (congrArg List.head? hrest) (hhead text h)

/-- A column behind the alias of its source. -/
theorem toList_column (index : Nat) (name : String) : (tableAlias index ++ "." ++ Name.quotedColumn name).toList =
    't' :: (Number.digits index ++ '.' :: (backtick :: (Name.column name).toList ++ [backtick])) := by
  rw [tableAlias, String.toList_append, String.toList_append, String.toList_append, Number.toList_nat, Name.toList_quotedColumn,
    List.append_assoc, List.append_assoc]
  rfl

/-- A column is a word: the point and the backticks go on with it. -/
theorem isWord_column (index : Nat) (name : String) : IsWord (tableAlias index ++ "." ++ Name.quotedColumn name).toList := by
  rw [toList_column]
  refine ⟨⟨List.cons_ne_nil _ _, ?_, ?_⟩, ?_⟩
  · have hdigits : ∀ c ∈ Number.digits index, isBare c = true := fun c hc =>
      isBare_of_class (by decide) (Number.isDigit_of_mem_digits hc)
    have hname : ∀ c ∈ (Name.column name).toList, isBare c = true := fun c hc =>
      isBare_of_class (by decide) (Name.isPlain_of_mem_column hc)
    have hquoted : ∀ c ∈ backtick :: (Name.column name).toList ++ [backtick], isBare c = true :=
      List.forall_mem_append.mpr ⟨List.forall_mem_cons.mpr ⟨rfl, hname⟩, List.forall_mem_singleton.mpr rfl⟩
    refine List.forall_mem_cons.mpr ⟨rfl, List.forall_mem_append.mpr ⟨hdigits, ?_⟩⟩
    exact List.forall_mem_cons.mpr ⟨rfl, hquoted⟩
  · exact keyword?_of_head fun k => by cases k <;> decide
  · rintro rest ⟨⟩

end Scalar

/-! ## Expressions and what they show -/

namespace Expr

/-- An expression in which no function is called and no row stands for itself. -/
inductive CallFree : Expr → Prop
  | literal (v : Literal) : CallFree (.literal v)
  | column (p : Param) (name : String) : CallFree (.column p name)
  | member {target : Expr} (name : String) (ht : CallFree target) : CallFree (.member target name)
  | unary (op : UnaryOp) {operand : Expr} (ho : CallFree operand) : CallFree (.unary op operand)
  | binary (op : BinaryOp) {left right : Expr} (hl : CallFree left) (hr : CallFree right) : CallFree (.binary op left right)
  | conditional {test yes no : Expr} (ht : CallFree test) (hy : CallFree yes) (hn : CallFree no) :
      CallFree (.conditional test yes no)
  | coalesce {left right : Expr} (hl : CallFree left) (hr : CallFree right) : CallFree (.coalesce left right)

/-- The scalar that an expression shows in SQL. -/
inductive Shows (a : Aliases) : Expr → Scalar → Prop
  /-- A literal without quotes: NULL, a truth value or a number. -/
  | bare {v : Literal} {text : String} (h : v.sql = .ok text) (hword : Scalar.IsWord text.toList)
      (hlead : text.toList.head? ≠ some 't') : Shows a (.literal v) (.word text.toList)
  | string (s : String) : Shows a (.literal (.string s)) (.string s.toList)
  | timestamp (t : Timestamp) : Shows a (.literal (.timestamp t)) (.timestamp t.sqlText.toList)
  | column {p : Param} {name : String} {index : Nat} (h : a.resolve p = .ok (tableAlias index)) :
      Shows a (.column p name) (.word (tableAlias index ++ "." ++ Name.quotedColumn name).toList)
  | member {target : Expr} {name : String} {form : MemberForm} {x : Scalar} (hform : memberForm? name = some form)
      (ht : Shows a target x) : Shows a (.member target name) (.member form x)
  | unary (op : UnaryOp) {operand : Expr} {x : Scalar} (ho : Shows a operand x) : Shows a (.unary op operand) (.unary op x)
  /-- A comparison with NULL on the right. -/
  | testLeft {op : BinaryOp} {left : Expr} {test : String} {x : Scalar} (htest : nullTest? op = some test)
      (hleft : left.isNull = false) (hl : Shows a left x) : Shows a (.binary op left (.literal .null)) (.test test x)
  /-- A comparison with NULL on the left. -/
  | testRight {op : BinaryOp} {right : Expr} {test : String} {x : Scalar} (htest : nullTest? op = some test)
      (hright : right.isNull = false) (hr : Shows a right x) : Shows a (.binary op (.literal .null) right) (.test test x)
  | binary {op : BinaryOp} {left right : Expr} {x y : Scalar} (hform : comparisonForm op left right = .both)
      (hl : Shows a left x) (hr : Shows a right y) : Shows a (.binary op left right) (.binary op x y)
  | conditional {test yes no : Expr} {x y z : Scalar} (ht : Shows a test x) (hy : Shows a yes y) (hn : Shows a no z) :
      Shows a (.conditional test yes no) (.conditional x y z)
  | coalesce {left right : Expr} {x y : Scalar} (hl : Shows a left x) (hr : Shows a right y) :
      Shows a (.coalesce left right) (.coalesce x y)

/-- What is shown can be read back. -/
theorem Shows.wellFormed {a : Aliases} {e : Expr} {x : Scalar} (h : Shows a e x) : x.WellFormed := by
  have hpart : ∀ name part, memberForm? name = some (.part part) → ∀ c ∈ part.toList, Scalar.isBare c = true := by
    intro name part hform
    unfold memberForm? at hform
    split at hform <;> cases hform <;> exact List.all_eq_true.mp (by decide)
  have htest : ∀ op test, nullTest? op = some test → test ∈ Scalar.tests := by
    intro op test htest
    cases op <;> cases htest <;> decide
  induction h with
  | bare h hword hlead => exact .word hword
  | string s => exact .string _
  | timestamp t =>
    exact .timestamp fun hmem => unmarked_timestamp t singleQuote hmem (by decide)
  | column h => exact .word (Scalar.isWord_column _ _)
  | @member target name form x hform ht ih =>
    cases form with
    | length => exact .length ih
    | part part => exact .part (hpart name part hform) ih
  | unary op ho ih =>
    cases op with
    | not => exact .not ih
    | negate => exact .negate ih
  | testLeft h hleft hl ih => exact .test (htest _ _ h) ih
  | testRight h hright hr ih => exact .test (htest _ _ h) ih
  | binary hform hl hr ihl ihr => exact .binary _ ihl ihr
  | conditional ht hy hn iht ihy ihn => exact .conditional iht ihy ihn
  | coalesce hl hr ihl ihr => exact .coalesce ihl ihr

/-! ## The SQL of what is shown -/

variable {a : Aliases}

/-- The text is that of what the expression shows. -/
def Displays (a : Aliases) (e : Expr) (text : String) : Prop := ∃ x, Shows a e x ∧ text.toList = x.chars

/-- The SQL of a literal is that of what it shows. -/
theorem displays_literal (v : Literal) : Written (Displays a (.literal v)) v.sql := by
  have hbare : ∀ text : String, v.sql = .ok text → Scalar.IsWord text.toList → text.toList.head? ≠ some 't' →
      Displays a (.literal v) text := fun text h hword hlead => ⟨_, .bare h hword hlead, rfl⟩
  have hhead : ∀ text ∈ ["NULL", "TRUE", "FALSE"], text.toList.head? ≠ some 't' := by decide
  have hfixed : ∀ text ∈ ["NULL", "TRUE", "FALSE"], v.sql = .ok text → Displays a (.literal v) text :=
    fun text htext h => hbare text h (Scalar.isWord_fixed htext) (hhead text htext)
  have hnumber : ∀ text : String, Number.Numeral text.toList → v.sql = .ok text → Displays a (.literal v) text :=
    fun text hnumeral h => hbare text h (Scalar.isWord_of_numeral hnumeral) (hnumeral.head?_ne (by decide) (by decide))
  cases v with
  | null => exact hfixed "NULL" (by decide) rfl
  | boolean b =>
    cases b with
    | true => exact hfixed "TRUE" (by decide) rfl
    | false => exact hfixed "FALSE" (by decide) rfl
  | integer n => exact hnumber _ (Number.numeral_int n.toInt) rfl
  | float x =>
    rw [Literal.sql]
    split
    · rename_i hfinite
      exact hnumber _ (Number.numeral_numberText hfinite) (by rw [Literal.sql, if_pos hfinite])
    · exact rfl
  | decimal d =>
    rw [Literal.sql]
    split
    · rename_i hdecimal
      exact hnumber _ (Literal.numeral_of_isDecimal hdecimal) (by rw [Literal.sql, if_pos hdecimal])
    · exact rfl
  | string s =>
    refine ⟨_, .string s, ?_⟩
    rw [quotedString, quoted, String.toList_ofList]
    rfl
  | timestamp t =>
    refine ⟨_, .timestamp t, ?_⟩
    rw [String.toList_append, String.toList_append, List.append_assoc]
    rfl

/-- Without an output row, parameters are resolved by position. -/
theorem resolve_positional (sources : List String) (p : Param) :
    Outcome Failure.IsUnsupported (fun source => ∃ index, source = tableAlias index) (Aliases.resolve ⟨sources, none⟩ p) := by
  unfold Aliases.resolve
  split
  · split
    · rename_i index _
      exact ⟨index, rfl⟩
    · exact rfl
  · exact rfl

section Forms

variable {functions : Registry} {sources : List String}

/-- The SQL of a column is the word of its alias and its name. -/
theorem displays_column (p : Param) (name : String) :
    Written (Displays ⟨sources, none⟩ (.column p name)) ((column p name).sql functions ⟨sources, none⟩) := by
  have hpositional := resolve_positional sources p
  rw [Expr.sql]
  cases hsource : Aliases.resolve ⟨sources, none⟩ p with
  | error f => exact hpositional.failure hsource
  | ok source =>
    obtain ⟨index, rfl⟩ := hpositional.value hsource
    exact ⟨_, .column hsource, rfl⟩

/-- The SQL of a member is that of what it shows, if it is so of its target. -/
theorem displays_member {target : Expr} (name : String) (h : Written (Displays a target) (target.sql functions a)) :
    Written (Displays a (.member target name)) ((member target name).sql functions a) := by
  rw [Expr.sql]
  split
  · exact rfl
  · rename_i form hform
    refine h.bind fun text htext => ?_
    obtain ⟨x, hx, hchars⟩ := htext
    refine ⟨_, .member hform hx, ?_⟩
    have hlength : "CHAR_LENGTH(".toList = Keyword.charLength.chars ++ "(".toList := rfl
    have hextract : "EXTRACT(".toList = Keyword.extract.chars ++ "(".toList := rfl
    cases form with
    | length =>
      show ("CHAR_LENGTH(" ++ text ++ ")").toList = _
      simp only [String.toList_append, hlength, hchars, List.append_assoc, Scalar.chars]
    | part part =>
      show ("EXTRACT(" ++ part ++ " FROM " ++ text ++ ")").toList = _
      simp only [String.toList_append, hextract, hchars, List.append_assoc, Scalar.chars]

/-- The SQL of an operation with one operand is that of what it shows, if it is so of the operand. -/
theorem displays_unary (op : UnaryOp) {operand : Expr} (h : Written (Displays a operand) (operand.sql functions a)) :
    Written (Displays a (.unary op operand)) ((unary op operand).sql functions a) := by
  rw [Expr.sql]
  refine h.bind fun text htext => ?_
  obtain ⟨x, hx, hchars⟩ := htext
  refine ⟨_, .unary op hx, ?_⟩
  cases op with
  | not =>
    simp only [String.toList_append, hchars, List.append_assoc, Scalar.chars]
    rfl
  | negate =>
    simp only [String.toList_append, hchars, List.append_assoc, Scalar.chars]
    rfl

/-- Where one side alone is NULL, a comparison for equality shows a test of the other side. -/
theorem displays_binary (op : BinaryOp) {left right : Expr} (hl : Written (Displays a left) (left.sql functions a))
    (hr : Written (Displays a right) (right.sql functions a)) :
    Written (Displays a (.binary op left right)) ((binary op left right).sql functions a) := by
  have htest : ∀ (text test : String) (x : Scalar), text.toList = x.chars →
      ("(" ++ text ++ " " ++ test ++ ")").toList = (Scalar.test test x).chars := by
    intro text test x hchars
    simp only [String.toList_append, hchars, List.append_assoc, Scalar.chars]
    rfl
  rw [Expr.sql]
  split
  · rename_i test hform
    obtain ⟨hop, hleft, rfl⟩ := comparisonForm_testLeft hform
    refine hl.bind fun text htext => ?_
    obtain ⟨x, hx, hchars⟩ := htext
    exact ⟨_, .testLeft hop hleft hx, htest text test x hchars⟩
  · rename_i test hform
    obtain ⟨hop, hright, rfl⟩ := comparisonForm_testRight hform
    refine hr.bind fun text htext => ?_
    obtain ⟨x, hx, hchars⟩ := htext
    exact ⟨_, .testRight hop hright hx, htest text test x hchars⟩
  · rename_i hform
    refine hl.bind fun l hl => hr.bind fun r hr => ?_
    obtain ⟨x, hx, hl⟩ := hl
    obtain ⟨y, hy, hr⟩ := hr
    refine ⟨_, .binary hform hx hy, ?_⟩
    simp only [String.toList_append, hl, hr, List.append_assoc, Scalar.chars]
    rfl

/-- The SQL of a condition is that of what it shows, if it is so of its parts. -/
theorem displays_conditional {test yes no : Expr} (ht : Written (Displays a test) (test.sql functions a))
    (hy : Written (Displays a yes) (yes.sql functions a)) (hn : Written (Displays a no) (no.sql functions a)) :
    Written (Displays a (.conditional test yes no)) ((conditional test yes no).sql functions a) := by
  rw [Expr.sql]
  refine ht.bind fun t ht => hy.bind fun y hy => hn.bind fun n hn => ?_
  obtain ⟨u, hu, ht⟩ := ht
  obtain ⟨v, hv, hy⟩ := hy
  obtain ⟨w, hw, hn⟩ := hn
  have hcase : "CASE WHEN ".toList = Keyword.case.chars ++ " WHEN ".toList := rfl
  refine ⟨_, .conditional hu hv hw, ?_⟩
  simp only [String.toList_append, hcase, ht, hy, hn, List.append_assoc, Scalar.chars]

theorem displays_coalesce {left right : Expr} (hl : Written (Displays a left) (left.sql functions a))
    (hr : Written (Displays a right) (right.sql functions a)) :
    Written (Displays a (.coalesce left right)) ((coalesce left right).sql functions a) := by
  rw [Expr.sql]
  refine hl.bind fun l hl => hr.bind fun r hr => ?_
  obtain ⟨x, hx, hl⟩ := hl
  obtain ⟨y, hy, hr⟩ := hr
  have hcoalesce : "COALESCE(".toList = Keyword.coalesce.chars ++ "(".toList := rfl
  refine ⟨_, .coalesce hx hy, ?_⟩
  simp only [String.toList_append, hcoalesce, hl, hr, List.append_assoc, Scalar.chars]

end Forms

/-- The SQL of an expression without calls is the text of what it shows. -/
theorem displays_sql (functions : Registry) (sources : List String) {e : Expr} (h : CallFree e) :
    Written (Displays ⟨sources, none⟩ e) (e.sql functions ⟨sources, none⟩) := by
  induction h with
  | literal v => exact displays_literal v
  | column p name => exact displays_column p name
  | member name ht ih => exact displays_member name ih
  | unary op ho ih => exact displays_unary op ih
  | binary op hl hr ihl ihr => exact displays_binary op ihl ihr
  | conditional ht hy hn iht ihy ihn => exact displays_conditional iht ihy ihn
  | coalesce hl hr ihl ihr => exact displays_coalesce ihl ihr

end Expr

end FlinkSql
