import FlinkSql.Json.Token

/-!
# Reading JSON texts

The grammar of JSON as a machine that takes one token at a time. Containers part way through wait in a list, so depth has no
limit. Comments, needless commas and text behind the value are refused.
-/

namespace FlinkSql.Json

/-- A container part way through. Parts that are complete are kept last first. -/
inductive Context
  | array (done : List Json)
  /-- An object that waits for the value of a member; `readable` unless a name in it holds half of a surrogate pair. -/
  | member (done : List (String × Json)) (readable : Bool) (name : String)

/-- What the machine waits for. -/
inductive Waiting
  /-- For a value. -/
  | value (outer : List Context)
  /-- For the first item of an array or its end. -/
  | firstItem (outer : List Context)
  /-- For a comma or the end of an array. -/
  | afterItem (done : List Json) (outer : List Context)
  /-- For the first member of an object or its end. -/
  | firstName (outer : List Context)
  /-- For the name of a member. -/
  | nextName (done : List (String × Json)) (readable : Bool) (outer : List Context)
  /-- For the colon behind a name. -/
  | colon (done : List (String × Json)) (readable : Bool) (name : String) (outer : List Context)
  /-- For a comma or the end of an object. -/
  | afterMember (done : List (String × Json)) (readable : Bool) (outer : List Context)
  /-- For nothing more. -/
  | nothing (value : Json)

namespace Waiting

/-- Puts a complete value where it belongs. -/
def deliver (v : Json) : List Context → Waiting
  | [] => .nothing v
  | .array done :: outer => .afterItem (v :: done) outer
  | .member done readable name :: outer => .afterMember ((name, v) :: done) readable outer

/-- The step on a token where a value may begin. -/
def beginValue (outer : List Context) : Token → Option Waiting
  | .beginObject => some (.firstName outer)
  | .beginArray => some (.firstItem outer)
  | .text (some s) => some (deliver (.str s) outer)
  | .text none => some (deliver .unreadable outer)
  | .scalar v => some (deliver v outer)
  | _ => none

/-- The step on a token where a name may stand. -/
def beginMember (done : List (String × Json)) (readable : Bool) (outer : List Context) : Token → Option Waiting
  | .text (some s) => some (.colon done readable s outer)
  | .text none => some (.colon done false "" outer)
  | _ => none

/-- One step. -/
def step : Waiting → Token → Option Waiting
  | .value outer, t => beginValue outer t
  | .firstItem outer, .endArray => some (deliver (.arr []) outer)
  | .firstItem outer, t => beginValue (.array [] :: outer) t
  | .afterItem done outer, .comma => some (.value (.array done :: outer))
  | .afterItem done outer, .endArray => some (deliver (.arr done.reverse) outer)
  | .firstName outer, .endObject => some (deliver (.obj []) outer)
  | .firstName outer, t => beginMember [] true outer t
  | .nextName done readable outer, t => beginMember done readable outer t
  | .colon done readable name outer, .colon => some (.value (.member done readable name :: outer))
  | .afterMember done readable outer, .comma => some (.nextName done readable outer)
  | .afterMember done readable outer, .endObject =>
    some (deliver (if readable then .obj done.reverse else .unreadable) outer)
  | _, _ => none

end Waiting

/-- Reads a text that holds one value and nothing else. -/
def read? (text : String) : Option Json := do
  let tokens ← Token.cut .between text.toList
  match ← tokens.foldlM Waiting.step (.value []) with
  | .nothing v => some v
  | _ => none

end FlinkSql.Json
