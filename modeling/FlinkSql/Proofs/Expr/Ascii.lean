import FlinkSql.Proofs.Expr.Exposed
import FlinkSql.Proofs.Expr.Writable
import FlinkSql.Proofs.Function.Ascii

/-!
# The SQL of an expression outside strings

What the caller writes stands in the SQL of an expression between quotes, in normalized names, and in decimals. A decimal is
accepted with digits of any script and kept as it is; all else is ASCII outside strings. So the SQL of an expression is ASCII
there if its decimals are, and a decimal is if it has the form of a decimal number in SQL.
-/

namespace FlinkSql

open Text

namespace Expr

variable {sources : List String}

/-- A column is a piece: an alias that counts the sources, and a normalized name between backticks. -/
theorem asciiPiece_column (index : Nat) (name : String) : AsciiPiece (tableAlias index ++ "." ++ Name.quotedColumn name) := by
  have halias : AsciiPiece (tableAlias index) := asciiPiece_of_lead fun c hc => isLead_of_mem_tableAlias hc
  have hdot : AsciiPiece "." := rfl
  have hname : AsciiPiece (Name.quotedColumn name) := by
    rw [AsciiPiece, ReadsAscii, Name.toList_quotedColumn]
    refine readAscii_backticks fun c hc => ?_
    have hplain : Name.isPlain c = true := Name.isPlain_of_mem_column hc
    have hunquoted := isAsciiUnquoted_of_isLead (isLead_of_isPlain hplain)
    rw [isAsciiUnquoted, Bool.and_eq_true] at hunquoted
    refine ⟨hunquoted.1, ?_⟩
    rintro rfl
    exact absurd hplain (by decide)
  exact (halias.append hdot).append hname

/-- The words of forms are pieces. -/
theorem asciiPiece_words : ∀ words ∈ openings ++ innerWords ++ closings, AsciiPiece words := by decide +kernel

/-- An expression is written as a piece if its parts are; a literal, if it is no decimal of another form. -/
theorem asciiPiece_of_children {e : Expr} (hliteral : ∀ v, e = .literal v → v.HasSqlForm)
    (hchildren : ∀ child ∈ e.children, Written AsciiPiece (child.sql .standard ⟨sources, none⟩)) :
    Written AsciiPiece (e.sql .standard ⟨sources, none⟩) := by
  cases e using sqlCases with
  | literal v =>
    rw [Expr.sql]
    exact Literal.asciiPiece_sql (hliteral v rfl)
  | column p name =>
    rw [Expr.sql]
    refine (resolve_positional sources p).bind fun source hsource => ?_
    obtain ⟨index, rfl⟩ := hsource
    exact asciiPiece_column index name
  | call f receiver args =>
    rw [sql_call]
    exact (Outcome.mapM hchildren).bind fun rendered hrendered => Registry.kept_asciiPiece.write hrendered
  | form e form hform => exact outcome_of_form rfl AsciiPiece.append asciiPiece_words hform hchildren
  | unwritten e failure hkind hnone =>
    rw [hnone]
    exact hkind

/-- An expression whose decimals have the form of SQL is written as a piece. -/
theorem written_asciiPiece {e : Expr} (h : ∀ v, .literal v ∈ e.nodes → v.HasSqlForm) :
    Written AsciiPiece (e.sql .standard ⟨sources, none⟩) := by
  induction e using induction_children with
  | step e ih =>
    refine asciiPiece_of_children (fun v hv => h v (hv ▸ mem_nodes_self e)) fun child hchild => ?_
    exact ih child hchild fun v hv => h v (mem_nodes_of_child hchild hv)

/-! ## The decimals of what is written -/

/-- Where the SQL of a shaped expression is ASCII outside strings, its decimals have the form of SQL. -/
theorem hasSqlForm_of_ascii {e : Expr} {text : String} (hshaped : e.IsShaped) (h : e.sql .standard ⟨sources, none⟩ = .ok text)
    (hascii : AsciiOutsideStrings text) : ∀ v, .literal v ∈ e.nodes → v.HasSqlForm := by
  intro v hv
  obtain ⟨t, ht⟩ := node_written h _ hv
  have hneutral : ∀ output ∈ (⟨sources, none⟩ : Aliases).output, Neutral output := by
    intro output houtput
    cases houtput
  rcases exposes_node hshaped hneutral h hv ht with hexposes | ⟨w, hw, hdecimal⟩
  · rw [Expr.sql] at ht
    exact Literal.hasSqlForm_of_ascii ht (hascii.of_exposes hexposes)
  · cases hw
    cases v with
    | decimal d => exact absurd rfl (hdecimal d)
    | _ => trivial

/-- What is written is ASCII outside strings if its decimals are ASCII, and where the expression is shaped, only then; and a decimal
that is written has the form of SQL exactly if its characters are ASCII. -/
theorem ascii_sql {e : Expr} {text : String} (h : e.sql .standard ⟨sources, none⟩ = .ok text) :
    ((∀ d, .literal (.decimal d) ∈ e.nodes → ∀ c ∈ d.toList, isAscii c = true) → AsciiOutsideStrings text) ∧
    (e.IsShaped →
      (AsciiOutsideStrings text ↔ ∀ d, .literal (.decimal d) ∈ e.nodes → ∀ c ∈ d.toList, isAscii c = true)) ∧
    ∀ d, .literal (.decimal d) ∈ e.nodes → (Literal.IsSqlDecimal d.toList ↔ ∀ c ∈ d.toList, isAscii c = true) := by
  have hdecimal : ∀ d, .literal (.decimal d) ∈ e.nodes →
      (Literal.IsSqlDecimal d.toList ↔ ∀ c ∈ d.toList, isAscii c = true) := by
    intro d hd
    obtain ⟨t, ht⟩ := node_written h _ hd
    rw [Expr.sql] at ht
    exact Literal.isSqlDecimal_iff (Literal.succeeds_sql_iff.mp ⟨t, ht⟩)
  have hsufficient : (∀ d, .literal (.decimal d) ∈ e.nodes → ∀ c ∈ d.toList, isAscii c = true) → AsciiOutsideStrings text := by
    intro hascii
    have hforms : ∀ v, .literal v ∈ e.nodes → v.HasSqlForm := by
      intro v hv
      cases v with
      | decimal d => exact (hdecimal d hv).mpr (hascii d hv)
      | _ => trivial
    exact ((written_asciiPiece hforms).value h).asciiOutsideStrings
  refine ⟨hsufficient, fun hshaped => ⟨fun hascii d hd => ?_, hsufficient⟩, hdecimal⟩
  exact (hdecimal d hd).mp (hasSqlForm_of_ascii hshaped h hascii _ hd)

/-- An amount times a rate. -/
def timesRate (rate : String) : Expr := .binary .multiply (.column ⟨"o", some "Order"⟩ "Amount") (.literal (.decimal rate))

/-- A rate with digits of ASCII. -/
theorem timesRate_ascii :
    (timesRate "-1.19").sql .standard ⟨["Order"], none⟩ = .ok "(t0.`amount` * -1.19)" ∧
    (∀ d, .literal (.decimal d) ∈ (timesRate "-1.19").nodes → ∀ c ∈ d.toList, isAscii c = true) ∧
    AsciiOutsideStrings "(t0.`amount` * -1.19)" ∧ Literal.IsSqlDecimal "-1.19".toList := by
  have hsql : (timesRate "-1.19").sql .standard ⟨["Order"], none⟩ = .ok "(t0.`amount` * -1.19)" :=
    eq_ok_of_toOption (by decide +kernel)
  have hrate : .literal (.decimal "-1.19") ∈ (timesRate "-1.19").nodes := by simp [timesRate, nodes]
  have hascii : ∀ d, .literal (.decimal d) ∈ (timesRate "-1.19").nodes → ∀ c ∈ d.toList, isAscii c = true := by
    intro d hd
    simp only [timesRate, nodes, List.mem_cons, List.singleton_append, List.not_mem_nil, or_false, literal.injEq,
      Literal.decimal.injEq, reduceCtorEq, false_or] at hd
    rw [hd]
    exact List.all_eq_true.mp (by decide)
  obtain ⟨hsufficient, -, hform⟩ := ascii_sql hsql
  exact ⟨hsql, hascii, hsufficient hascii, (hform _ hrate).mpr (hascii _ hrate)⟩

/-- A rate with an Arabic digit is written as it is, outside strings. -/
theorem timesRate_arabic :
    (timesRate "٣").sql .standard ⟨["Order"], none⟩ = .ok "(t0.`amount` * ٣)" ∧ ¬AsciiOutsideStrings "(t0.`amount` * ٣)" ∧
    ¬Literal.IsSqlDecimal "٣".toList := by
  refine ⟨eq_ok_of_toOption (by decide +kernel), fun hascii => ?_, fun hform => ?_⟩
  · have hc := hascii "(t0.`amount` * ".toList '٣' [')'] (by decide) (by decide)
    exact absurd hc (by decide)
  · exact absurd (hform.unquoted '٣' (by decide)) (by decide)

end Expr

end FlinkSql
