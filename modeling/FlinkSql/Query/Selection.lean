import FlinkSql.Expr.Basic
import FlinkSql.Name

/-!
# Selections

What a projection or grouping expression selects: a whole row, or a list of items with labels. A record gives one item a
member, any other expression a single item. Members whose names are the same once normalized are reported as warnings here;
that they are refused is a matter of the plan.
-/

namespace FlinkSql

/-- The clause that a warning is about. -/
inductive ClauseName
  | select
  | groupBy
  deriving DecidableEq

/-- The clause as it stands in warnings. -/
def ClauseName.text : ClauseName → String
  | .select => "select"
  | .groupBy => "group_by"

/-- What deserves attention though it is no failure. -/
inductive Warning
  /-- A member of a record whose normalized name an earlier member has. -/
  | memberCollision (clause : ClauseName) (member : String)
  /-- A record without members, taken for the whole row. -/
  | emptyRecord (clause : ClauseName)
  /-- HAVING is written against the output row, because the projection names no columns. -/
  | havingOnOutputRow
  deriving DecidableEq

/-- The warning in words, with its details behind. -/
def Warning.text : Warning → String
  | .memberCollision clause member =>
    "record member name collides with an earlier member clause=" ++ clause.text ++ " member=" ++ member
  | .emptyRecord clause =>
    "record construction has no members, falling back to a wildcard clause=" ++ clause.text
  | .havingOnOutputRow =>
    "projection has no named items; rendering HAVING against the output row, which strict dialects may reject"

/-- A selected value with its label: the name that it has in the result. -/
structure Item where
  label : String
  expr : Expr

/-- What is selected. -/
inductive Selection
  /-- All columns of one parameter, or of all sources. -/
  | wildcard (param : Option Param)
  /-- Values in order. -/
  | items (values : List Item)

namespace Selection

/-- The label of the only item of a scalar projection. -/
def scalarLabel : String := "value"

/-- Whether a whole row is selected. -/
def isWildcard : Selection → Bool
  | .wildcard _ => true
  | .items _ => false

/-- The selected values; none if a whole row is selected. -/
def itemList : Selection → List Item
  | .wildcard _ => []
  | .items values => values

/-- The first item with a label. -/
def item? (s : Selection) (label : String) : Option Item := s.itemList.find? (·.label == label)

/-- What an expression selects. -/
def ofExpr : Expr → Selection
  | .row p => .wildcard (some p)
  | .record [] => .wildcard none
  | .record members => .items (members.map fun (name, value) => ⟨name, value⟩)
  | e => .items [⟨scalarLabel, e⟩]

/-- The members whose normalized names have been seen before them. -/
def repeatedMembers (seen : List String) : List (String × Expr) → List String
  | [] => []
  | (name, _) :: rest =>
    if Name.column name ∈ seen then name :: repeatedMembers seen rest
    else repeatedMembers (Name.column name :: seen) rest

/-- The warnings about an expression that selects. -/
def warnings (clause : ClauseName) : Expr → List Warning
  | .record [] => [.emptyRecord clause]
  | .record members => (repeatedMembers [] members).map (.memberCollision clause)
  | _ => []

end Selection

end FlinkSql
