import FlinkSql.Function.Like
import FlinkSql.Function.Registry
import FlinkSql.Text.Character

/-!
# The functions of Flink SQL

The standard registry: strings, mathematics, the function library, the markers for window bounds, and the aggregates. Some
functions are registered only to be refused with advice.
-/

namespace FlinkSql

namespace Offset

/-- The argument at a position as an offset that counts from one: offsets of string operations count from zero. A literal is
counted up here, anything else when the query runs. -/
def oneBased (a : Arguments) (index : Nat) : Except Failure String :=
  match a.raw index with
  | some (.literal (.integer n)) =>
    if n.toInt < Int64.maxValue.toInt then .ok (toString (n.toInt + 1))
    else .error (.expression (.offsetOutOfRange n.toInt))
  | _ => do
    let text ← a.sql index
    return "(" ++ text ++ " + 1)"

/-- Writes the rest of a text from an offset on. -/
def writeFrom (a : Arguments) : Except Failure String := do
  let text ← a.sql 0
  let start ← oneBased a 1
  return "SUBSTRING(" ++ text ++ " FROM " ++ start ++ ")"

/-- Writes a part of a text of a given length. -/
def writeFromFor (a : Arguments) : Except Failure String := do
  let text ← a.sql 0
  let start ← oneBased a 1
  let length ← a.sql 2
  return "SUBSTRING(" ++ text ++ " FROM " ++ start ++ " FOR " ++ length ++ ")"

end Offset

namespace TimeUnit

/-- The units in which timestamps are subtracted and shifted. -/
def all : List String := ["SECOND", "MINUTE", "HOUR", "DAY", "WEEK", "MONTH", "QUARTER", "YEAR"]

/-- The unit that a string literal names, in any letter case. It is written without quotes. -/
def ofArgument (a : Arguments) (index : Nat) : Except Failure String :=
  match a.stringLiteral? index with
  | none => .error (.expression (.timeUnitNotLiteral a.call.qualifiedName))
  | some name =>
    match all.find? (Text.equalsIgnoringCase · name) with
    | some unit => .ok unit
    | none => .error (.expression (.unknownTimeUnit a.call.qualifiedName name))

/-- Writes a function of a unit and two more arguments. -/
def writeCall (sqlName : String) (a : Arguments) : Except Failure String := do
  let unit ← ofArgument a 0
  let first ← a.sql 1
  let second ← a.sql 2
  return sqlName ++ "(" ++ unit ++ ", " ++ first ++ ", " ++ second ++ ")"

end TimeUnit

namespace Registry

/-- From two to eight arguments. -/
def twoToEight : List Nat := [2, 3, 4, 5, 6, 7, 8]

/-- Methods of strings. -/
def strings : List (FunctionShape × Rule) :=
  entries .string "contains" [1] (.transform (Like.write true true)) ++
  entries .string "starts_with" [1] (.transform (Like.write false true)) ++
  entries .string "ends_with" [1] (.transform (Like.write true false)) ++
  entries .string "substring" [1] (.transform Offset.writeFrom) ++
  entries .string "substring" [2] (.transform Offset.writeFromFor) ++
  entries .string "replace" [2] (.template "REPLACE({0}, {1}, {2})") ++
  entries .string "trim" [0] (.template "TRIM({0})") ++
  entries .string "trim_start" [0] (.template "TRIM(LEADING FROM {0})") ++
  entries .string "trim_end" [0] (.template "TRIM(TRAILING FROM {0})") ++
  entries .string "to_upper" [0] (.template "UPPER({0})") ++
  entries .string "to_lower" [0] (.template "LOWER({0})") ++
  entries .string "index_of" [1] (.template "(POSITION({1} IN {0}) - 1)") ++
  entries .string "concat" twoToEight (.rename "CONCAT") ++
  entries .string "split" [1, 2] (.rejected (some "use flink::split_index instead"))

/-- Mathematical functions. -/
def maths : List (FunctionShape × Rule) :=
  entries .math "round" [1, 2] (.rename "ROUND") ++
  entries .math "floor" [1] (.rename "FLOOR") ++
  entries .math "ceiling" [1] (.rename "CEIL") ++
  entries .math "abs" [1] (.rename "ABS") ++
  entries .math "pow" [2] (.rename "POWER") ++
  entries .math "sqrt" [1] (.rename "SQRT") ++
  entries .math "exp" [1] (.rename "EXP") ++
  entries .math "log10" [1] (.rename "LOG10") ++
  entries .math "sign" [1] (.rename "SIGN") ++
  entries .math "log" [1] (.template "LN({0})") ++
  entries .math "log" [2] (.template "LOG({1}, {0})")

/-- Advice for functions of JSON that are missing. -/
def jsonHint : String := "not available in Flink SQL"

/-- Advice for functions over a moving range of rows. -/
def overHint : String :=
  "OVER windows are not supported; aggregate over a window table function instead"

/-- JSON and texts in the function library. -/
def libraryTexts : List (FunctionShape × Rule) :=
  entries .flink "json_value" [2] (.rename "JSON_VALUE") ++
  entries .flink "json_query" [2] (.rename "JSON_QUERY") ++
  entries .flink "json_exists" [2] (.rename "JSON_EXISTS") ++
  entries .flink "json_string" [1] (.rename "JSON_STRING") ++
  entries .flink "json_length" [1] (.rejected (some jsonHint)) ++
  entries .flink "json_array_length" [1] (.rejected (some jsonHint)) ++
  entries .flink "json_keys" [1] (.rejected (some jsonHint)) ++
  entries .flink "json_table" [2] (.rejected (some jsonHint)) ++
  entries .flink "concat" twoToEight (.rename "CONCAT") ++
  entries .flink "concat_ws" [3, 4, 5, 6, 7, 8] (.rename "CONCAT_WS") ++
  entries .flink "lpad" [3] (.rename "LPAD") ++
  entries .flink "rpad" [3] (.rename "RPAD") ++
  entries .flink "initcap" [1] (.rename "INITCAP") ++
  entries .flink "upper" [1] (.rename "UPPER") ++
  entries .flink "lower" [1] (.rename "LOWER") ++
  entries .flink "char_length" [1] (.rename "CHAR_LENGTH") ++
  entries .flink "regexp" [2] (.rename "REGEXP") ++
  entries .flink "regexp_extract" [2, 3] (.rename "REGEXP_EXTRACT") ++
  entries .flink "regexp_replace" [3] (.rename "REGEXP_REPLACE") ++
  entries .flink "split_index" [3] (.rename "SPLIT_INDEX") ++
  entries .flink "md5" [1] (.rename "MD5") ++
  entries .flink "sha256" [1] (.rename "SHA256") ++
  entries .flink "to_base64" [1] (.rename "TO_BASE64") ++
  entries .flink "from_base64" [1] (.rename "FROM_BASE64")

/-- Dates in the function library. -/
def libraryDates : List (FunctionShape × Rule) :=
  entries .flink "date_format" [2] (.rename "DATE_FORMAT") ++
  entries .flink "to_timestamp" [1, 2] (.rename "TO_TIMESTAMP") ++
  entries .flink "to_timestamp_ltz" [2] (.rename "TO_TIMESTAMP_LTZ") ++
  entries .flink "unix_timestamp" [0, 1, 2] (.rename "UNIX_TIMESTAMP") ++
  entries .flink "from_unixtime" [1, 2] (.rename "FROM_UNIXTIME") ++
  entries .flink "current_timestamp" [0] (.template "CURRENT_TIMESTAMP") ++
  entries .flink "now" [0] (.rename "NOW") ++
  entries .flink "timestamp_diff" [3] (.transform (TimeUnit.writeCall "TIMESTAMPDIFF")) ++
  entries .flink "timestamp_add" [3] (.transform (TimeUnit.writeCall "TIMESTAMPADD"))

/-- Arrays, maps, nulls and comparison in the function library, and names that Flink knows under another name or not at all. -/
def libraryValues : List (FunctionShape × Rule) :=
  entries .flink "array_contains" [2] (.rename "ARRAY_CONTAINS") ++
  entries .flink "array_join" [2, 3] (.rename "ARRAY_JOIN") ++
  entries .flink "cardinality" [1] (.rename "CARDINALITY") ++
  entries .flink "element_at" [2] (.template "{0}[{1}]") ++
  entries .flink "map_keys" [1] (.rename "MAP_KEYS") ++
  entries .flink "map_values" [1] (.rename "MAP_VALUES") ++
  entries .flink "if_null" [2] (.rename "IFNULL") ++
  entries .flink "null_if" [2] (.rename "NULLIF") ++
  entries .flink "greatest" twoToEight (.rename "GREATEST") ++
  entries .flink "least" twoToEight (.rename "LEAST") ++
  entries .flink "row_number_over" [0] (.rejected (some overHint)) ++
  entries .flink "rank_over" [0] (.rejected (some overHint)) ++
  entries .flink "dense_rank_over" [0] (.rejected (some overHint)) ++
  entries .flink "lag_over" [1, 2] (.rejected (some overHint)) ++
  entries .flink "lead_over" [1, 2] (.rejected (some overHint)) ++
  entries .flink "len" [1] (.rejected (some "use flink::char_length instead")) ++
  entries .flink "ucase" [1] (.rejected (some "use flink::upper instead")) ++
  entries .flink "lcase" [1] (.rejected (some "use flink::lower instead")) ++
  entries .flink "substr" [2, 3] (.rejected (some "use the string substring method instead")) ++
  entries .flink "array_length" [1] (.rejected (some "use flink::cardinality instead")) ++
  entries .flink "extract_json_field" [2] (.rejected (some "use flink::json_value instead"))

/-- Markers for the bounds of a window. -/
def windowMarkers : List (FunctionShape × Rule) :=
  entries .window "start" [0] (.template "window_start") ++
  entries .window "end" [0] (.template "window_end") ++
  entries .window "time" [0] (.template "window_time") ++
  entries .window "proctime" [0] (.template "PROCTIME()")

/-- Advice for aggregates by offset. -/
def offsetHint : String := "offset-ordered aggregates are not available in Flink SQL"

/-- Aggregates. -/
def aggregates : List (FunctionShape × Rule) :=
  entries .aggregate "count" [0] (.template "COUNT(*)") ++
  entries .aggregate "count" [1] (.rename "COUNT") ++
  entries .aggregate "count_distinct" [1] (.template "COUNT(DISTINCT {0})") ++
  entries .aggregate "sum" [1] (.rename "SUM") ++
  entries .aggregate "avg" [1] (.rename "AVG") ++
  entries .aggregate "min" [1] (.rename "MIN") ++
  entries .aggregate "max" [1] (.rename "MAX") ++
  entries .aggregate "earliest_by_offset" [1] (.rejected (some offsetHint)) ++
  entries .aggregate "latest_by_offset" [1] (.rejected (some offsetHint))

/-- The registry of Flink SQL. -/
def standard : Registry :=
  ⟨strings ++ maths ++ libraryTexts ++ libraryDates ++ libraryValues ++ windowMarkers ++ aggregates⟩

/-- There are 132 rules. -/
example : standard.rules.length = 132 := by decide +kernel

end Registry

end FlinkSql
