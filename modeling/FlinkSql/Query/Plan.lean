import FlinkSql.Expr.Aliases
import FlinkSql.Expr.Walk
import FlinkSql.Query.Selection
import FlinkSql.Time.Interval

/-!
# Query plans

Everything that one streaming query is made of, as plain data. A plan may be illegal: whether it is, is checked when it is
written as SQL, so that incomplete plans can be looked at too.
-/

namespace FlinkSql

/-- A condition with the parameters that it refers to. -/
structure Predicate where
  body : Expr
  params : List Param

/-- The condition with its own parameters, in the order of their first use. -/
def Predicate.ofExpr (body : Expr) : Predicate := ⟨body, body.params⟩

/-- The kinds of windows. -/
inductive WindowKind
  /-- Windows of a fixed size side by side. -/
  | tumble
  /-- Windows of a fixed size that start one slide after the other. -/
  | hop
  /-- Windows that end after a gap. -/
  | session
  deriving DecidableEq, Repr

instance : Named WindowKind where
  all := [.tumble, .hop, .session]
  name
    | .tumble => "Tumble"
    | .hop => "Hop"
    | .session => "Session"

/-- The time by which rows are put into windows. -/
inductive TimeAttribute
  /-- A column with the time of the event. -/
  | column (name : String)
  /-- The time at which a row is processed. -/
  | processing
  deriving DecidableEq

/-- A window. Only hopping windows use the slide. -/
structure Window where
  kind : WindowKind
  time : TimeAttribute
  /-- The size, or the gap of a session window. -/
  size : Span
  slide : Option Span
  deriving DecidableEq

namespace Window

/-- A tumbling window. -/
def tumble (time : TimeAttribute) (size : Span) : Window := ⟨.tumble, time, size, none⟩

/-- A hopping window. -/
def hop (time : TimeAttribute) (size slide : Span) : Window := ⟨.hop, time, size, some slide⟩

/-- A session window. -/
def session (time : TimeAttribute) (gap : Span) : Window := ⟨.session, time, gap, none⟩

end Window

/-- How results reach the sink. -/
inductive SinkMode
  /-- Rows are only added. -/
  | appendOnly
  /-- A row replaces the one with the same key. -/
  | upsert
  deriving DecidableEq, Repr

instance : Named SinkMode where
  all := [.appendOnly, .upsert]
  name
    | .appendOnly => "AppendOnly"
    | .upsert => "Upsert"

/-- A streaming query. -/
structure Plan where
  /-- The row types that are read, in order. -/
  sourceTypes : List String
  /-- The topics behind the sources; none, or one a source. -/
  sourceTopics : List String
  /-- One condition a join, in order. -/
  joins : List Predicate
  /-- Conditions that all have to hold. -/
  wheres : List Predicate
  /-- The projection as it was written. -/
  projection : Option Expr
  /-- What the projection selects. -/
  selection : Selection
  /-- The grouping keys. -/
  grouping : Option Selection
  /-- The condition on the projected row. -/
  having : Option Expr
  window : Option Window
  hasGroupBy : Bool
  hasAggregate : Bool
  hasHaving : Bool
  sinkMode : SinkMode

namespace Plan

/-- The plan reading from other topics. -/
def withSourceTopics (p : Plan) (topics : List String) : Plan := { p with sourceTopics := topics }

/-- The names of the tables that are read: the topics, or the row types if there are no topics. -/
def tableNames (p : Plan) : List String :=
  if p.sourceTopics.isEmpty then p.sourceTypes else p.sourceTopics

/-- The aliases of the sources. -/
def aliases (p : Plan) : Aliases := ⟨p.sourceTypes, none⟩

end Plan

end FlinkSql
