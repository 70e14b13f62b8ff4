import FlinkSql.Proofs.Expr.Shown

/-!
# Expressions that are written alike

`Expr.Alike` lists what the SQL of an expression without calls does not tell: which literal a number is, which parameter of a
source a column is read from, and on which side NULL stands in a test. `Expr.sql_eq_iff_alike` says that it tells everything else:
two expressions have one SQL text exactly when they are alike.
-/

namespace FlinkSql

open Text

/-- NULL is written by no other literal. -/
theorem Literal.eq_null_of_sql {v : Literal} (h : v.sql = .ok "NULL") : v = .null := by
  have hnumeral : ∀ text, Number.Numeral text.toList → (.ok text : Except Failure String) ≠ .ok "NULL" := by
    rintro text hnumeral ⟨⟩
    exact hnumeral.head?_ne (c := 'N') (by decide) (by decide) rfl
  cases v with
  | null => rfl
  | boolean b => cases b <;> exact absurd (Except.ok.inj h) (by decide)
  | integer n => exact absurd h (hnumeral _ (Number.numeral_int n.toInt))
  | float x =>
    rw [Literal.sql] at h
    split at h
    · rename_i hfinite
      exact absurd h (hnumeral _ (Number.numeral_numberText hfinite))
    · cases h
  | decimal d =>
    rw [Literal.sql] at h
    split at h
    · rename_i hdecimal
      exact absurd h (hnumeral _ (Literal.numeral_of_isDecimal hdecimal))
    · cases h
  | string s =>
    have hhead := congrArg (fun text => text.toList.head?) (Except.ok.inj h)
    simp only [quotedString, quoted, String.toList_ofList] at hhead
    exact absurd (Option.some.inj hhead) (by decide)
  | timestamp t =>
    have hhead := congrArg (fun text => text.toList.head?) (Except.ok.inj h)
    simp only [String.toList_append, List.append_assoc] at hhead
    exact absurd (Option.some.inj hhead) (by decide)

namespace Expr

/-- Two expressions that differ only in what SQL does not show. -/
inductive Alike (a : Aliases) : Expr → Expr → Prop
  /-- Literals with the same SQL. -/
  | literal {v w : Literal} {text : String} (hv : v.sql = .ok text) (hw : w.sql = .ok text) : Alike a (.literal v) (.literal w)
  /-- Columns behind the same alias with the same normalized name. -/
  | column {p q : Param} {name other source : String} (hp : a.resolve p = .ok source) (hq : a.resolve q = .ok source)
      (hname : Name.column name = Name.column other) : Alike a (.column p name) (.column q other)
  | member {target target' : Expr} (name : String) (ht : Alike a target target') :
      Alike a (.member target name) (.member target' name)
  | unary (op : UnaryOp) {operand operand' : Expr} (ho : Alike a operand operand') : Alike a (.unary op operand) (.unary op operand')
  | binary (op : BinaryOp) {left right left' right' : Expr} (hl : Alike a left left') (hr : Alike a right right') :
      Alike a (.binary op left right) (.binary op left' right')
  | conditional {test yes no test' yes' no' : Expr} (ht : Alike a test test') (hy : Alike a yes yes') (hn : Alike a no no') :
      Alike a (.conditional test yes no) (.conditional test' yes' no')
  | coalesce {left right left' right' : Expr} (hl : Alike a left left') (hr : Alike a right right') :
      Alike a (.coalesce left right) (.coalesce left' right')
  /-- A comparison for equality of which the right side alone is NULL, and the same with its sides swapped. -/
  | nullRight {op : BinaryOp} {left right : Expr} (hop : (nullTest? op).isSome) (hnull : left.isNull = false)
      (h : Alike a left right) : Alike a (.binary op left (.literal .null)) (.binary op (.literal .null) right)
  /-- A comparison for equality of which the left side alone is NULL, and the same with its sides swapped. -/
  | nullLeft {op : BinaryOp} {left right : Expr} (hop : (nullTest? op).isSome) (hnull : right.isNull = false)
      (h : Alike a right left) : Alike a (.binary op (.literal .null) right) (.binary op left (.literal .null))

/-! ## What is shown determines the expression -/

/-- Different members have different forms. -/
theorem memberForm?_inj {name other : String} {form : MemberForm} (h : memberForm? name = some form)
    (h' : memberForm? other = some form) : name = other := by
  have hinj : ∀ m ∈ memberForms, ∀ n ∈ memberForms, m.2 = n.2 → m.1 = n.1 := by decide
  exact hinj _ (mem_memberForms h) _ (mem_memberForms h') rfl

/-- Different operators have different tests. -/
theorem nullTest?_inj {op other : BinaryOp} {test : String} (h : nullTest? op = some test) (h' : nullTest? other = some test) :
    op = other := by
  cases op <;> cases h <;> cases other <;> first | rfl | exact absurd h' (by decide)

/-- The alias and the normalized name can be told from the text of a column: the first point stands between them. -/
theorem column_inj {index index' : Nat} {name other : String}
    (h : (tableAlias index ++ "." ++ Name.quotedColumn name).toList = (tableAlias index' ++ "." ++ Name.quotedColumn other).toList) :
    tableAlias index = tableAlias index' ∧ Name.column name = Name.column other := by
  have hdigits : '.' ∉ Number.digits index := fun hdot => absurd (Number.isDigit_of_mem_digits hdot) (by decide)
  have hquoted : '.' ∉ backtick :: (Name.column name).toList ++ [backtick] := by
    simp only [List.cons_append, List.mem_cons, List.mem_append, List.not_mem_nil, or_false, not_or]
    exact ⟨by decide, fun hdot => absurd (Name.isPlain_of_mem_column hdot) (by decide), by decide⟩
  rw [Scalar.toList_column, Scalar.toList_column] at h
  obtain ⟨hindex, -, hname⟩ := (List.append_cons_inj_of_notMem hdigits hquoted).mp (List.cons.inj h).2
  refine ⟨?_, String.toList_inj.mp (List.append_cancel_right (List.cons.inj hname).2)⟩
  rw [tableAlias, tableAlias, String.toList_inj.mp ((Number.toList_nat index).trans (hindex.trans (Number.toList_nat index').symm))]

namespace Shows

variable {a : Aliases} {e e' : Expr}

/-- Expressions that show one word are literals with that text, or columns behind one alias: a column begins with the letter of the
aliases, and no literal does. -/
theorem alike_of_word {s t : List Char} (h : Shows a e (.word s)) (h' : Shows a e' (.word t)) (hst : s = t) : Alike a e e' := by
  cases h with
  | bare h hword hlead =>
    cases h' with
    | bare h' hword' hlead' =>
      obtain rfl := String.toList_inj.mp hst
      exact .literal h h'
    | column hsource =>
      rw [hst, Scalar.toList_column] at hlead
      exact absurd rfl hlead
  | column hsource =>
    cases h' with
    | bare h' hword' hlead' =>
      rw [← hst, Scalar.toList_column] at hlead'
      exact absurd rfl hlead'
    | column hsource' =>
      obtain ⟨halias, hname⟩ := column_inj hst
      exact .column hsource (halias ▸ hsource') hname

/-- A string is shown by the literal that holds it. -/
theorem eq_string {s : List Char} (h : Shows a e (.string s)) : e = .literal (.string (String.ofList s)) := by
  cases h with
  | string s => rw [String.ofList_toList]

/-- A timestamp is shown by literals with its text. -/
theorem eq_timestamp {s : List Char} (h : Shows a e (.timestamp s)) : ∃ t, e = .literal (.timestamp t) ∧ t.sqlText.toList = s := by
  cases h with
  | timestamp t => exact ⟨t, rfl, rfl⟩

/-- Expressions that show one test are alike if their operands are, on whichever side NULL stands. -/
theorem alike_of_test {test : String} {x : Scalar} (hoperand : ∀ {e e'}, Shows a e x → Shows a e' x → Alike a e e')
    (h : Shows a e (.test test x)) (h' : Shows a e' (.test test x)) : Alike a e e' := by
  cases h with
  | testLeft htest hnull hl =>
    cases h' with
    | testLeft htest' _ hl' =>
      obtain rfl := nullTest?_inj htest htest'
      exact .binary _ (hoperand hl hl') (.literal rfl rfl)
    | testRight htest' _ hr' =>
      obtain rfl := nullTest?_inj htest htest'
      exact .nullRight (Option.isSome_of_eq_some htest) hnull (hoperand hl hr')
  | testRight htest hnull hr =>
    cases h' with
    | testLeft htest' _ hl' =>
      obtain rfl := nullTest?_inj htest htest'
      exact .nullLeft (Option.isSome_of_eq_some htest) hnull (hoperand hr hl')
    | testRight htest' _ hr' =>
      obtain rfl := nullTest?_inj htest htest'
      exact .binary _ (.literal rfl rfl) (hoperand hr hr')

/-- Expressions that show the same scalar are alike. -/
theorem alike {x : Scalar} (h : Shows a e x) (h' : Shows a e' x) : Alike a e e' := by
  induction x generalizing e e' with
  | word s => exact h.alike_of_word h' rfl
  | string s =>
    rw [h.eq_string, h'.eq_string]
    exact .literal rfl rfl
  | timestamp s =>
    obtain ⟨t, rfl, ht⟩ := h.eq_timestamp
    obtain ⟨t', rfl, ht'⟩ := h'.eq_timestamp
    have htext : t.sqlText = t'.sqlText := String.toList_inj.mp (ht.trans ht'.symm)
    exact .literal rfl (by rw [Literal.sql, htext])
  | member form x ih =>
    cases h with
    | member hform ht =>
      cases h' with
      | member hform' ht' =>
        obtain rfl := memberForm?_inj hform hform'
        exact .member _ (ih ht ht')
  | unary op x ih =>
    cases h with
    | unary _ ho =>
      cases h' with
      | unary _ ho' => exact .unary op (ih ho ho')
  | test test x ih => exact alike_of_test ih h h'
  | binary op x y ihx ihy =>
    cases h with
    | binary _ hl hr =>
      cases h' with
      | binary _ hl' hr' => exact .binary op (ihx hl hl') (ihy hr hr')
  | conditional x y z ihx ihy ihz =>
    cases h with
    | conditional ht hy hn =>
      cases h' with
      | conditional ht' hy' hn' => exact .conditional (ihx ht ht') (ihy hy hy') (ihz hn hn')
  | coalesce x y ihx ihy =>
    cases h with
    | coalesce hl hr =>
      cases h' with
      | coalesce hl' hr' => exact .coalesce (ihx hl hl') (ihy hr hr')

end Shows

/-! ## Alike expressions are written alike -/

theorem Alike.isNull_eq {a : Aliases} {e e' : Expr} (h : Alike a e e') : e.isNull = e'.isNull := by
  cases h with
  | literal hv hw =>
    rw [Bool.eq_iff_iff]
    constructor
    · intro hnull
      obtain rfl := Expr.literal.inj (isNull_iff.mp hnull)
      cases hv
      rw [Literal.eq_null_of_sql hw]
      rfl
    · intro hnull
      obtain rfl := Expr.literal.inj (isNull_iff.mp hnull)
      cases hw
      rw [Literal.eq_null_of_sql hv]
      rfl
  | _ => rfl

/-- Alike operands are compared in the same form. -/
theorem comparisonForm_congr (op : BinaryOp) {left right left' right' : Expr} (hl : left.isNull = left'.isNull)
    (hr : right.isNull = right'.isNull) : comparisonForm op left right = comparisonForm op left' right' := by
  rw [comparisonForm, comparisonForm, hl, hr]

/-- A comparison of which the right side alone is NULL is a test of the left side. -/
theorem sql_nullRight {functions : Registry} {a : Aliases} {op : BinaryOp} {test : String} (hop : nullTest? op = some test)
    {left : Expr} (h : left.isNull = false) : (binary op left (.literal .null)).sql functions a =
      left.sql functions a >>= fun text => pure ("(" ++ text ++ " " ++ test ++ ")") := by
  have hform : comparisonForm op left (.literal .null) = .testLeft test := by
    rw [comparisonForm, hop, h]
    rfl
  rw [Expr.sql, hform]

/-- A comparison of which the left side alone is NULL is a test of the right side. -/
theorem sql_nullLeft {functions : Registry} {a : Aliases} {op : BinaryOp} {test : String} (hop : nullTest? op = some test)
    {right : Expr} (h : right.isNull = false) : (binary op (.literal .null) right).sql functions a =
      right.sql functions a >>= fun text => pure ("(" ++ text ++ " " ++ test ++ ")") := by
  have hform : comparisonForm op (.literal .null) right = .testRight test := by
    rw [comparisonForm, hop, h]
    rfl
  rw [Expr.sql, hform]

theorem Alike.toOption_sql {a : Aliases} {e e' : Expr} (functions : Registry) (h : Alike a e e') :
    (e.sql functions a).toOption = (e'.sql functions a).toOption := by
  induction h with
  | literal hv hw => rw [Expr.sql, Expr.sql, hv, hw]
  | column hp hq hname =>
    rw [Expr.sql, Expr.sql, hp, hq, Name.quotedColumn, Name.quotedColumn, hname]
  | member name ht ih =>
    rw [Expr.sql, Expr.sql]
    cases memberForm? name with
    | none => rfl
    | some form => simp only [toOption_bind, ih]
  | unary op ho ih =>
    rw [Expr.sql, Expr.sql, toOption_bind, toOption_bind, ih]
  | @binary op left right left' right' hl hr ihl ihr =>
    rw [Expr.sql, Expr.sql, comparisonForm_congr op hl.isNull_eq hr.isNull_eq]
    cases comparisonForm op left' right' with
    | testLeft test => simp only [toOption_bind, ihl]
    | testRight test => simp only [toOption_bind, ihr]
    | both => simp only [toOption_bind, ihl, ihr]
  | conditional ht hy hn iht ihy ihn => simp only [Expr.sql, toOption_bind, iht, ihy, ihn]
  | coalesce hl hr ihl ihr => simp only [Expr.sql, toOption_bind, ihl, ihr]
  | nullRight hop hnull h ih =>
    obtain ⟨test, htest⟩ := Option.isSome_iff_exists.mp hop
    rw [sql_nullRight htest hnull, sql_nullLeft htest (h.isNull_eq ▸ hnull), toOption_bind, toOption_bind, ih]
  | nullLeft hop hnull h ih =>
    obtain ⟨test, htest⟩ := Option.isSome_iff_exists.mp hop
    rw [sql_nullLeft htest hnull, sql_nullRight htest (h.isNull_eq ▸ hnull), toOption_bind, toOption_bind, ih]

/-- The SQL of an expression without calls, over sources that go by position, tells the expression: two of them have one text
exactly when they are alike. -/
theorem sql_eq_iff_alike (functions : Registry) (sources : List String) {e e' : Expr} (he : CallFree e) (he' : CallFree e')
    {text text' : String} (h : e.sql functions ⟨sources, none⟩ = .ok text) (h' : e'.sql functions ⟨sources, none⟩ = .ok text') :
    text = text' ↔ Alike ⟨sources, none⟩ e e' := by
  constructor
  · rintro rfl
    obtain ⟨x, hx, hchars⟩ := (displays_sql functions sources he).value h
    obtain ⟨y, hy, hchars'⟩ := (displays_sql functions sources he').value h'
    obtain rfl := hx.wellFormed.chars_inj hy.wellFormed (hchars.symm.trans hchars')
    exact hx.alike hy
  · intro halike
    have hsame := halike.toOption_sql functions
    rw [h, h'] at hsame
    exact Option.some.inj hsame

/-- A test for NULL, and a column that two parameters of one source read under two spellings. -/
theorem amount_tests_alike : Alike ⟨["Order"], none⟩
    (.binary .eq (.column ⟨"o", some "Order"⟩ "Amount") (.literal .null))
    (.binary .eq (.literal .null) (.column ⟨"p", some "Order"⟩ "amount")) := by
  have hleft : CallFree (.binary .eq (.column ⟨"o", some "Order"⟩ "Amount") (.literal .null)) :=
    .binary .eq (.column _ _) (.literal _)
  have hright : CallFree (.binary .eq (.literal .null) (.column ⟨"p", some "Order"⟩ "amount")) :=
    .binary .eq (.literal _) (.column _ _)
  have hsql : (binary .eq (.column ⟨"o", some "Order"⟩ "Amount") (.literal .null)).sql .empty ⟨["Order"], none⟩ =
      .ok "(t0.`amount` IS NULL)" := eq_ok_of_toOption (by decide)
  have hswapped : (binary .eq (.literal .null) (.column ⟨"p", some "Order"⟩ "amount")).sql .empty ⟨["Order"], none⟩ =
      .ok "(t0.`amount` IS NULL)" := eq_ok_of_toOption (by decide)
  exact (sql_eq_iff_alike .empty ["Order"] hleft hright hsql hswapped).mp rfl

end Expr

end FlinkSql
