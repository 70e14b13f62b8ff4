import FlinkSql.Expr.Basic
import FlinkSql.Failure

/-!
# Aliases of row parameters

In SQL a row parameter is written as the alias of its source: `t0` for the first source, `t1` for the second, and so on. It is
the row type that decides, so all parameters over one source share its alias, whatever their names.
-/

namespace FlinkSql

/-- The alias of the source at a position. -/
def tableAlias (index : Nat) : String := "t" ++ toString index

/-- The sources that parameters range over, and the alias of the projected output row where it may be referred to. -/
structure Aliases where
  /-- Row types by position. -/
  sources : List String
  output : Option String := none

namespace Aliases

/-- The last position of a row type. -/
def lastIndex? (row : String) : List String → Option Nat
  | [] => none
  | source :: rest =>
    match lastIndex? row rest with
    | some i => some (i + 1)
    | none => if source = row then some 0 else none

/-- The alias of a parameter. -/
def resolve (a : Aliases) (p : Param) : Except Failure String :=
  match p.row with
  | some row =>
    match lastIndex? row a.sources with
    | some i => .ok (tableAlias i)
    | none => .error (.expression (.notASource p.name row))
  | none =>
    match a.output with
    | some output => .ok output
    | none => .error (.expression (.outputRow p.name))

end Aliases

end FlinkSql
