import FlinkSql.Proofs.Expr.Citing
import FlinkSql.Proofs.Expr.References
import FlinkSql.Proofs.Expr.Shown
import Mathlib.Data.List.Nodup

/-!
# Columns by position

A column of a source is written behind the alias of the last position of its row type, whatever its parameter is called and
wherever in an expression it stands. `Expr.ByPosition` says so of an expression and its SQL: of each column by itself, and of what
the whole text refers to.
-/

namespace FlinkSql

open Text

/-! ## Positions -/

/-- The last position of a row type among the sources. -/
def IsLast (row : String) (sources : List String) (i : Nat) : Prop :=
  sources[i]? = some row ∧ ∀ j, sources[j]? = some row → j ≤ i

/-- A row type has one last position. -/
theorem IsLast.unique {row : String} {sources : List String} {i j : Nat} (h : IsLast row sources i) (h' : IsLast row sources j) :
    i = j :=
  Nat.le_antisymm (h'.2 i h.1) (h.2 j h'.1)

/-- Where no row type is repeated, each position is the last one of its row type. -/
theorem isLast_of_nodup {row : String} {sources : List String} (hsources : sources.Nodup) {i : Nat}
    (h : sources[i]? = some row) : IsLast row sources i := by
  refine ⟨h, fun j hj => ?_⟩
  obtain ⟨hi, hrow⟩ := List.getElem?_eq_some_iff.mp h
  obtain ⟨hj, hrow'⟩ := List.getElem?_eq_some_iff.mp hj
  exact Nat.le_of_eq (hsources.getElem_inj_iff.mp (hrow'.trans hrow.symm))

/-- Behind the first source, the last position is the one among the others. -/
theorem isLast_cons_succ {row source : String} {rest : List String} {i : Nat} :
    IsLast row (source :: rest) (i + 1) ↔ IsLast row rest i := by
  simp only [IsLast, List.getElem?_cons_succ]
  constructor
  · rintro ⟨hi, hlast⟩
    exact ⟨hi, fun j hj => Nat.le_of_succ_le_succ (hlast (j + 1) hj)⟩
  · rintro ⟨hi, hlast⟩
    refine ⟨hi, fun j hj => ?_⟩
    cases j with
    | zero => exact Nat.zero_le _
    | succ j => exact Nat.succ_le_succ (hlast j hj)

/-- The first position is the last one if the row type does not come again. -/
theorem isLast_cons_zero {row source : String} {rest : List String} :
    IsLast row (source :: rest) 0 ↔ source = row ∧ row ∉ rest := by
  simp only [IsLast, List.getElem?_cons_zero, Option.some.injEq, Nat.le_zero]
  refine and_congr_right fun _ => ⟨fun hlast hmem => ?_, fun hnone j hj => ?_⟩
  · obtain ⟨j, hj⟩ := List.mem_iff_getElem?.mp hmem
    exact Nat.succ_ne_zero j (hlast (j + 1) hj)
  · cases j with
    | zero => rfl
    | succ j => exact absurd (List.mem_of_getElem? (List.getElem?_cons_succ ▸ hj)) hnone

/-- Sources have different aliases. -/
theorem tableAlias_injective : Function.Injective tableAlias := by
  intro i j h
  rw [tableAlias, tableAlias, String.append_right_inj, ← String.toList_inj, Number.toList_nat, Number.toList_nat] at h
  exact Number.digits_injective h

/-- An alias has letters and digits only. -/
theorem isLead_of_mem_tableAlias {i : Nat} {c : Char} (h : c ∈ (tableAlias i).toList) : isLead c = true := by
  rw [tableAlias, String.toList_append, Number.toList_nat] at h
  rcases List.mem_append.mp h with h | h
  · cases List.mem_singleton.mp h
    rfl
  · have hdigit := Number.isDigit_of_mem_digits h
    simp [isLead, Char.isAlphanum, hdigit]

namespace Aliases

/-- A row type has no position exactly if it is no source. -/
theorem lastIndex?_eq_none_iff {row : String} {sources : List String} : lastIndex? row sources = none ↔ row ∉ sources := by
  induction sources with
  | nil => exact ⟨fun _ => List.not_mem_nil, fun _ => rfl⟩
  | cons source rest ih =>
    rw [lastIndex?, List.mem_cons, not_or, ← ih]
    cases lastIndex? row rest with
    | some i => exact ⟨nofun, fun h => absurd h.2 nofun⟩
    | none =>
      show (if source = row then some 0 else none) = none ↔ _
      split
      · rename_i hsource
        exact ⟨nofun, fun h => absurd hsource.symm h.1⟩
      · rename_i hsource
        exact ⟨fun _ => ⟨Ne.symm hsource, rfl⟩, fun _ => rfl⟩

/-- The search for a row type gives its last position. -/
theorem lastIndex?_eq_some_iff {row : String} {sources : List String} {i : Nat} :
    lastIndex? row sources = some i ↔ IsLast row sources i := by
  induction sources generalizing i with
  | nil => exact ⟨nofun, fun h => absurd h.1 nofun⟩
  | cons source rest ih =>
    rw [lastIndex?]
    cases i with
    | zero =>
      rw [isLast_cons_zero, ← lastIndex?_eq_none_iff]
      cases lastIndex? row rest with
      | some j => exact ⟨nofun, fun h => absurd h.2 nofun⟩
      | none => simp
    | succ i =>
      rw [isLast_cons_succ, ← ih]
      cases lastIndex? row rest with
      | some j => simp
      | none => simp

/-- A parameter over a row type has an alias where the row type is a source: that of its last position. -/
theorem resolve_eq_ok_iff {a : Aliases} {p : Param} {row source : String} (hp : p.row = some row) :
    a.resolve p = .ok source ↔ ∃ i, IsLast row a.sources i ∧ source = tableAlias i := by
  rw [resolve, hp]
  simp only [← lastIndex?_eq_some_iff]
  cases lastIndex? row a.sources with
  | some i => simp [eq_comm]
  | none => simp

/-- Without an alias for the output row, only parameters over sources have one. -/
theorem row_of_resolve {a : Aliases} {p : Param} {source : String} (ha : a.output = none) (h : a.resolve p = .ok source) :
    ∃ row i, p.row = some row ∧ IsLast row a.sources i ∧ source = tableAlias i := by
  cases hrow : p.row with
  | some row =>
    obtain ⟨i, hi, hsource⟩ := (resolve_eq_ok_iff hrow).mp h
    exact ⟨row, i, rfl, hi, hsource⟩
  | none =>
    rw [resolve, hrow, ha] at h
    cases h

end Aliases

namespace Expr

/-! ## The columns of what is written -/

/-- Where an expression is written, the parameters of its columns have aliases. -/
theorem resolve_of_written {functions : Registry} {a : Aliases} {e : Expr} {text : String} (h : e.sql functions a = .ok text)
    {p : Param} {name : String} (hcolumn : .column p name ∈ e.nodes) : ∃ source, a.resolve p = .ok source := by
  obtain ⟨t, ht⟩ := node_written h _ hcolumn
  rw [Expr.sql] at ht
  obtain ⟨source, hsource, -⟩ := bind_eq_ok.mp ht
  exact ⟨source, hsource⟩

/-- What the SQL of an expression refers to are its columns, each behind the alias of its parameter. -/
theorem references_sql {a : Aliases} (ha : ∀ output ∈ a.output, ∀ c ∈ output.toList, isLead c = true) {e : Expr}
    {text : String} (h : e.sql .standard a = .ok text) :
    ∀ r ∈ references text, ∃ p name source, .column p name ∈ e.nodes ∧ a.resolve p = .ok source ∧
      r = ⟨source ++ ".", Name.column name⟩ := by
  have hlead : ∀ p source, a.resolve p = .ok source → ∀ c ∈ source.toList, isLead c = true := by
    intro p source hsource
    cases hrow : p.row with
    | some row =>
      obtain ⟨i, -, rfl⟩ := (Aliases.resolve_eq_ok_iff hrow).mp hsource
      exact fun c => isLead_of_mem_tableAlias
    | none =>
      rw [Aliases.resolve, hrow] at hsource
      cases houtput : a.output with
      | some output =>
        rw [houtput] at hsource
        cases hsource
        exact ha _ houtput
      | none =>
        rw [houtput] at hsource
        cases hsource
  refine ((formsKept_citing.sql e fun p name hcolumn => ?_).value h).references
  obtain ⟨source, hsource⟩ := resolve_of_written h hcolumn
  rw [ColumnKept, hsource]
  exact (ready_column (hlead p source hsource) ⟨p, name, source, hcolumn, hsource, rfl⟩).citing

/-! ## Columns by position -/

/-- A reference to one of the columns among some nodes, by the last position of its row type. -/
def RefersByPosition (sources : List String) (nodes : List Expr) (r : Reference) : Prop :=
  ∃ p name row i, .column p name ∈ nodes ∧ p.row = some row ∧ IsLast row sources i ∧
    r = ⟨tableAlias i ++ ".", Name.column name⟩

/-- Each column of a source is by itself written behind the alias of the last position of its row type. -/
def ColumnsByPosition (functions : Registry) (sources : List String) (e : Expr) : Prop :=
  ∀ p name row, .column p name ∈ e.nodes → p.row = some row → ∃ i, IsLast row sources i ∧
    ∀ output, (column p name).sql functions ⟨sources, output⟩ = .ok (tableAlias i ++ "." ++ Name.quotedColumn name)

/-- The SQL of an expression in which columns go by position. With the functions of Flink it refers to nothing else. -/
structure ByPosition (functions : Registry) (sources : List String) (e : Expr) (text : String) : Prop where
  columns : e.ColumnsByPosition functions sources
  references : functions = .standard → ∀ r ∈ references text, RefersByPosition sources e.nodes r

/-- Where an expression is written, its columns go by position. -/
theorem columnsByPosition_of_written {functions : Registry} {a : Aliases} {e : Expr} {text : String}
    (h : e.sql functions a = .ok text) : e.ColumnsByPosition functions a.sources := by
  intro p name row hcolumn hrow
  obtain ⟨source, hsource⟩ := resolve_of_written h hcolumn
  obtain ⟨i, hi, rfl⟩ := (Aliases.resolve_eq_ok_iff hrow).mp hsource
  refine ⟨i, hi, fun output => ?_⟩
  have hresolve : Aliases.resolve ⟨a.sources, output⟩ p = .ok (tableAlias i) :=
    (Aliases.resolve_eq_ok_iff hrow).mpr ⟨i, hi, rfl⟩
  rw [Expr.sql, hresolve]
  rfl

/-- Where no alias stands for the output row, an expression that is written goes by position. -/
theorem byPosition_of_written {functions : Registry} {sources : List String} {e : Expr} {text : String}
    (h : e.sql functions ⟨sources, none⟩ = .ok text) : e.ByPosition functions sources text := by
  refine ⟨columnsByPosition_of_written h, ?_⟩
  rintro rfl r hr
  obtain ⟨p, name, source, hcolumn, hsource, rfl⟩ := references_sql (a := ⟨sources, none⟩) (fun _ h => absurd h nofun) h r hr
  obtain ⟨row, i, hrow, hi, rfl⟩ := Aliases.row_of_resolve rfl hsource
  exact ⟨p, name, row, i, hcolumn, hrow, hi, rfl⟩

end Expr

end FlinkSql
