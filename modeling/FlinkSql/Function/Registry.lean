import FlinkSql.Function.Template

/-!
# Registries of functions

A registry knows for the origin, the name and the number of explicit arguments of a call how it is written. A call that it does
not know has no SQL.
-/

namespace FlinkSql

/-- What decides how a call is written. -/
structure FunctionShape where
  function : FunctionName
  /-- The number of explicit arguments; a receiver is not counted. -/
  argc : Nat
  deriving DecidableEq

/-- The shape of a call. -/
def Call.shape (c : Call) : FunctionShape := ⟨c.function, c.args.length⟩

/-- Rules by shape, in the order in which the shapes were first registered. -/
structure Registry where
  rules : List (FunctionShape × Rule)

namespace Registry

/-- The same rule for several numbers of arguments. -/
def entries (origin : Origin) (name : String) (argcs : List Nat) (rule : Rule) : List (FunctionShape × Rule) :=
  argcs.map fun argc => (⟨⟨origin, name⟩, argc⟩, rule)

/-- Sets the rule for a shape in a list of rules. -/
def put (shape : FunctionShape) (rule : Rule) : List (FunctionShape × Rule) → List (FunctionShape × Rule)
  | [] => [(shape, rule)]
  | (s, r) :: rest => if s = shape then (shape, rule) :: rest else (s, r) :: put shape rule rest

/-- No rules. -/
def empty : Registry := ⟨[]⟩

/-- Sets a rule; a rule for the same shape is replaced. -/
def insert (r : Registry) (shape : FunctionShape) (rule : Rule) : Registry := ⟨put shape rule r.rules⟩

/-- Sets several rules in order. -/
def insertMany (r : Registry) (rules : List (FunctionShape × Rule)) : Registry :=
  rules.foldl (fun r entry => r.insert entry.1 entry.2) r

/-- The rule for a shape. -/
def rule? (r : Registry) (shape : FunctionShape) : Option Rule := r.rules.lookup shape

/-- Whether there is a rule for a shape, be it one that refuses the call. -/
def hasRule (r : Registry) (shape : FunctionShape) : Bool := (r.rule? shape).isSome

/-- The registry in words, for diagnostics. -/
def describe (r : Registry) : String :=
  "FunctionRegistry \x7b rules_count: " ++ toString r.rules.length ++ " \x7d"

/-- Writes a call. -/
def write (r : Registry) (a : Arguments) : Except Failure String :=
  match r.rule? a.call.shape with
  | none => .error (.function a.call.qualifiedName none)
  | some (.rename sqlName) => .ok (sqlName ++ "(" ++ ", ".intercalate a.rendered ++ ")")
  | some (.template text) => Template.fill text a
  | some (.transform write) => write a
  | some (.rejected hint) => .error (.function a.call.qualifiedName hint)

end Registry

end FlinkSql
