import FlinkSql.Dict
import FlinkSql.Failure
import FlinkSql.Text.Character

/-!
# Layers of properties

The properties of a table come from several layers, one on top of the other: the fixed keys of the connector, settings for all
tables, settings for one topic, settings for one table. The keys of the connector are reserved: after the first layer they
neither change nor appear. Any other key may be set twice to different values only if the later layer may override.
-/

namespace FlinkSql

/-- A named set of properties. They are applied in the order of their keys. -/
structure Layer where
  name : String
  properties : Dict String
  /-- Whether the layer may replace values of layers below it. -/
  mayOverride : Bool

/-- A property with the layer that set it last. -/
structure Property where
  key : String
  value : String
  layer : String
  deriving DecidableEq

/-- Properties in the order in which they were first set. -/
structure WithClause where
  entries : List Property
  deriving DecidableEq

namespace WithClause

/-- The keys that belong to the connector. -/
def reservedKeys : List String :=
  ["connector", "topic", "format", "properties.bootstrap.servers", "avro-confluent.url"]

/-- Whether a key belongs to the connector, in any letter case. -/
def isReserved (key : String) : Bool := reservedKeys.any (Text.equalsIgnoringCase · key)

/-- The lowest layer. -/
def fixed (properties : List (String × String)) : WithClause :=
  ⟨properties.map fun (key, value) => ⟨key, value, "fixed"⟩⟩

/-- The first property with a key. -/
def property? (w : WithClause) (key : String) : Option Property := w.entries.find? (·.key == key)

/-- The value of a key. -/
def get? (w : WithClause) (key : String) : Option String := (w.property? key).map (·.value)

/-- Gives the first property with the key of `p` the value and the layer of `p`. -/
def replaceFirst (p : Property) : List Property → List Property
  | [] => []
  | q :: rest => if q.key = p.key then p :: rest else q :: replaceFirst p rest

/-- Sets one property on behalf of a layer. -/
def set (layer : Layer) (w : WithClause) (key value : String) : Except Failure WithClause :=
  match w.property? key with
  | some old =>
    if old.value = value then .ok w
    else if isReserved key then .error (.configuration (.reservedChanged key layer.name old.value value))
    else if layer.mayOverride then .ok ⟨replaceFirst ⟨key, value, layer.name⟩ w.entries⟩
    else .error (.configuration (.conflict key old.value old.layer value layer.name))
  | none =>
    if isReserved key then .error (.configuration (.reservedAdded key layer.name))
    else .ok ⟨w.entries ++ [⟨key, value, layer.name⟩]⟩

/-- Sets properties one after the other. The first that is refused ends it; those before it stay set. -/
def setMany (layer : Layer) (w : WithClause) : List (String × String) → WithClause × Except Failure Unit
  | [] => (w, .ok ())
  | (key, value) :: rest =>
    match set layer w key value with
    | .ok next => setMany layer next rest
    | .error failure => (w, .error failure)

/-- Applies a layer: the clause as it stands then, and whether the whole layer was applied. -/
def apply (w : WithClause) (layer : Layer) : WithClause × Except Failure Unit :=
  setMany layer w layer.properties.entries

/-- Applies layers from the lowest up; fails with the first that is refused. -/
def applyAll (w : WithClause) : List Layer → Except Failure WithClause
  | [] => .ok w
  | layer :: rest =>
    match w.apply layer with
    | (next, .ok ()) => applyAll next rest
    | (_, .error failure) => .error failure

/-- One property in SQL. -/
def propertySql (p : Property) : String := Text.quotedString p.key ++ "=" ++ Text.quotedString p.value

/-- The clause in SQL. -/
def sql (w : WithClause) : String := "WITH (" ++ ", ".intercalate (w.entries.map propertySql) ++ ")"

end WithClause

end FlinkSql
