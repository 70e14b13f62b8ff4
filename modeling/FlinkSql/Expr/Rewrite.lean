import FlinkSql.Expr.Basic

/-!
# Rewriting expressions

Replacing nodes from the outside in. A replacement stands as it is: neither it nor what it replaces is searched any further.
-/

namespace FlinkSql

mutual

/-- Replaces each node for which `f` has an answer, outermost first. -/
def Expr.rewrite (f : Expr → Option Expr) (e : Expr) : Expr :=
  match f e with
  | some replacement => replacement
  | none => match e with
    | .literal v => .literal v
    | .column p name => .column p name
    | .row p => .row p
    | .member target name => .member (target.rewrite f) name
    | .unary op operand => .unary op (operand.rewrite f)
    | .binary op left right => .binary op (left.rewrite f) (right.rewrite f)
    | .conditional test yes no => .conditional (test.rewrite f) (yes.rewrite f) (no.rewrite f)
    | .coalesce left right => .coalesce (left.rewrite f) (right.rewrite f)
    | .call g none args => .call g none (rewriteArgs f args)
    | .call g (some receiver) args => .call g (some (receiver.rewrite f)) (rewriteArgs f args)
    | .record members => .record (rewriteMembers f members)

/-- Rewrites each argument. -/
def rewriteArgs (f : Expr → Option Expr) : List Expr → List Expr
  | [] => []
  | e :: rest => e.rewrite f :: rewriteArgs f rest

/-- Rewrites the value of each member. -/
def rewriteMembers (f : Expr → Option Expr) : List (String × Expr) → List (String × Expr)
  | [] => []
  | (name, e) :: rest => (name, e.rewrite f) :: rewriteMembers f rest

end

mutual

/-- The nodes that rewriting looks at, in order: those that lie below no replaced node. -/
def Expr.consulted (f : Expr → Option Expr) (e : Expr) : List Expr :=
  e :: match f e with
  | some _ => []
  | none => match e with
    | .literal _ => []
    | .column _ _ => []
    | .row _ => []
    | .member target _ => target.consulted f
    | .unary _ operand => operand.consulted f
    | .binary _ left right => left.consulted f ++ right.consulted f
    | .conditional test yes no => test.consulted f ++ yes.consulted f ++ no.consulted f
    | .coalesce left right => left.consulted f ++ right.consulted f
    | .call _ none args => consultedArgs f args
    | .call _ (some receiver) args => receiver.consulted f ++ consultedArgs f args
    | .record members => consultedMembers f members

/-- The nodes that rewriting the arguments looks at. -/
def consultedArgs (f : Expr → Option Expr) : List Expr → List Expr
  | [] => []
  | e :: rest => e.consulted f ++ consultedArgs f rest

/-- The nodes that rewriting the members looks at. -/
def consultedMembers (f : Expr → Option Expr) : List (String × Expr) → List Expr
  | [] => []
  | (_, e) :: rest => e.consulted f ++ consultedMembers f rest

end

end FlinkSql
