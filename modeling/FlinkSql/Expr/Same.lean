import FlinkSql.Expr.Basic

/-!
# Structural sameness of expressions

Two expressions are the same when they have the same shape and equal parts. Numbers are compared as numbers: zero is the same
as negative zero, and what is not a number is not the same as itself.
-/

namespace FlinkSql

/-- Whether two literals are the same. -/
def Literal.same : Literal → Literal → Bool
  | .null, .null => true
  | .boolean a, .boolean b => a == b
  | .integer a, .integer b => a == b
  | .float a, .float b => a == b
  | .decimal a, .decimal b => a == b
  | .string a, .string b => a == b
  | .timestamp a, .timestamp b => a == b
  | _, _ => false

mutual

/-- Whether two expressions are the same. -/
def Expr.same : Expr → Expr → Bool
  | .literal a, .literal b => a.same b
  | .column p a, .column q b => p == q && a == b
  | .row p, .row q => p == q
  | .member e a, .member f b => e.same f && a == b
  | .unary o e, .unary u f => o == u && e.same f
  | .binary o a b, .binary u c d => o == u && a.same c && b.same d
  | .conditional a b c, .conditional d e f => a.same d && b.same e && c.same f
  | .coalesce a b, .coalesce c d => a.same c && b.same d
  | .call f none as, .call g none bs => f == g && sameArgs as bs
  | .call f (some r) as, .call g (some s) bs => f == g && r.same s && sameArgs as bs
  | .record ms, .record ns => sameMembers ms ns
  | _, _ => false

/-- Whether two lists of arguments are the same, one by one. -/
def sameArgs : List Expr → List Expr → Bool
  | [], [] => true
  | a :: as, b :: bs => a.same b && sameArgs as bs
  | _, _ => false

/-- Whether two lists of members have the same names and values, one by one. -/
def sameMembers : List (String × Expr) → List (String × Expr) → Bool
  | [], [] => true
  | (n, a) :: as, (m, b) :: bs => n == m && a.same b && sameMembers as bs
  | _, _ => false

end

end FlinkSql
