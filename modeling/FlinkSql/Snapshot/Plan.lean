import FlinkSql.Json.Value
import FlinkSql.Query.Plan
import FlinkSql.Snapshot.Expr

/-!
# Snapshots of plans

Plans, their windows, selections and conditions as JSON values and back. Every field of a plan has to be there, except those
that may be null.
-/

namespace FlinkSql

open Json (required optional)

/-- A value that may be null as JSON. -/
def Json.ofOption {α : Type} (write : α → Json) : Option α → Json
  | none => .null
  | some a => write a

namespace Span

/-- A span as JSON. -/
def encode (d : Span) : Json := .obj [("secs", .int d.seconds), ("nanos", .int d.nanos)]

/-- Whether a value has no other members than those of a span. -/
def hasOnlyOwnMembers : Json → Bool
  | .obj members => members.all fun m => m.1 == "secs" || m.1 == "nanos"
  | _ => true

/-- Reads a span. Other members are refused; nanoseconds of a second or more are carried. -/
def decode (j : Json) : Option Span := do
  let [seconds, nanos] ← j.record? [required "secs", required "nanos"] | none
  if hasOnlyOwnMembers j then Span.ofParts? (← seconds.natBelow? UInt64.size) (← nanos.natBelow? UInt32.size) else none

end Span

namespace Interval

/-- An interval as JSON. -/
def encode (i : Interval) : Json := .obj [("value", .int i.value.toNat), ("unit", .ofNamed i.unit)]

/-- Reads an interval. -/
def decode (j : Json) : Option Interval := do
  let [value, unit] ← j.record? [required "value", required "unit"] | none
  return ⟨.ofNat (← value.natBelow? UInt64.size), ← unit.named?⟩

end Interval

namespace TimeAttribute

/-- A time attribute as JSON. -/
def encode : TimeAttribute → Json
  | .column name => .ofVariant "Column" (.str name)
  | .processing => .str "Proctime"

/-- Reads a time attribute. -/
def decode (j : Json) : Option TimeAttribute :=
  if j.unitVariant? == some "Proctime" then some .processing
  else do
    let (kind, payload) ← j.payload?
    if kind = "Column" then payload.str?.map .column else none

end TimeAttribute

namespace Window

/-- A window as JSON. -/
def encode (w : Window) : Json :=
  .obj [("kind", .ofNamed w.kind), ("time", w.time.encode), ("size", w.size.encode),
    ("slide", .ofOption Span.encode w.slide)]

/-- Reads a window. -/
def decode (j : Json) : Option Window := do
  let [kind, time, size, slide] ←
    j.record? [required "kind", required "time", required "size", optional "slide"] | none
  return ⟨← kind.named?, ← TimeAttribute.decode time, ← Span.decode size, ← slide.nullable? Span.decode⟩

end Window

namespace Predicate

/-- A condition as JSON. -/
def encode (p : Predicate) : Json :=
  .obj [("body", p.body.encode), ("params", .arr (p.params.map Param.encode))]

/-- Reads a condition. Its parameters are taken as they are written. -/
def decode (j : Json) : Option Predicate := do
  let [body, params] ← j.record? [required "body", required "params"] | none
  return ⟨← Expr.decode body, ← params.list? Param.decode⟩

end Predicate

namespace Item

/-- An item as JSON. -/
def encode (i : Item) : Json := .obj [("alias", .str i.label), ("expr", i.expr.encode)]

/-- Reads an item. -/
def decode (j : Json) : Option Item := do
  let [label, expr] ← j.record? [required "alias", required "expr"] | none
  return ⟨← label.str?, ← Expr.decode expr⟩

end Item

namespace Selection

/-- A selection as JSON. -/
def encode : Selection → Json
  | .wildcard param => .ofVariant "Wildcard" (.ofOption Param.encode param)
  | .items values => .ofVariant "Items" (.arr (values.map Item.encode))

/-- Reads a selection. -/
def decode (j : Json) : Option Selection := do
  let (kind, payload) ← j.payload?
  match kind with
  | "Wildcard" => (payload.nullable? Param.decode).map .wildcard
  | "Items" => (payload.list? Item.decode).map .items
  | _ => none

end Selection

namespace Plan

/-- A plan as JSON. -/
def encode (p : Plan) : Json :=
  .obj [
    ("source_types", .arr (p.sourceTypes.map .str)),
    ("source_topics", .arr (p.sourceTopics.map .str)),
    ("join_predicates", .arr (p.joins.map Predicate.encode)),
    ("where_predicates", .arr (p.wheres.map Predicate.encode)),
    ("select_expr", .ofOption Expr.encode p.projection),
    ("select_clause", p.selection.encode),
    ("group_by_clause", .ofOption Selection.encode p.grouping),
    ("having", .ofOption Expr.encode p.having),
    ("window", .ofOption Window.encode p.window),
    ("has_group_by", .bool p.hasGroupBy),
    ("has_aggregate", .bool p.hasAggregate),
    ("has_having", .bool p.hasHaving),
    ("sink_mode", .ofNamed p.sinkMode)]

/-- The fields of a plan. -/
def fields : List Json.Field :=
  [required "source_types", required "source_topics", required "join_predicates", required "where_predicates",
    optional "select_expr", required "select_clause", optional "group_by_clause", optional "having", optional "window",
    required "has_group_by", required "has_aggregate", required "has_having", required "sink_mode"]

/-- Reads a plan. -/
def decode (j : Json) : Option Plan := do
  let [types, topics, joins, wheres, projection, selection, grouping, having, window, groupBy, aggregate, hasHaving, mode]
    ← j.record? fields | none
  return {
    sourceTypes := ← types.list? Json.str?
    sourceTopics := ← topics.list? Json.str?
    joins := ← joins.list? Predicate.decode
    wheres := ← wheres.list? Predicate.decode
    projection := ← projection.nullable? Expr.decode
    selection := ← Selection.decode selection
    grouping := ← grouping.nullable? Selection.decode
    having := ← having.nullable? Expr.decode
    window := ← window.nullable? Window.decode
    hasGroupBy := ← groupBy.bool?
    hasAggregate := ← aggregate.bool?
    hasHaving := ← hasHaving.bool?
    sinkMode := ← mode.named? }

/-- A plan as an indented JSON text. -/
def snapshot (p : Plan) : String := p.encode.indented

end Plan

end FlinkSql
