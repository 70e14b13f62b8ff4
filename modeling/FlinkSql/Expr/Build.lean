import FlinkSql.Expr.Basic

/-!
# Building expressions

The calls that the string, mathematics, Flink, window and aggregate libraries offer. String operations are methods on an
expression; all other functions stand alone.
-/

namespace FlinkSql

namespace Param

/-- A column of the parameter. -/
def col (p : Param) (name : String) : Expr := .column p name

end Param

namespace Expr

/-- A call without a receiver. -/
def function (origin : Origin) (name : String) (args : List Expr) : Expr := .call ⟨origin, name⟩ none args

/-- A string operation with a receiver. -/
def method (receiver : Expr) (name : String) (args : List Expr) : Expr := .call ⟨.string, name⟩ (some receiver) args

/-- The NULL literal. -/
def null : Expr := .literal .null

end Expr

/-! ## Strings -/

namespace Strings

/-- Whether the text contains the pattern. -/
def contains (text pattern : Expr) : Expr := text.method "contains" [pattern]

/-- Whether the text starts with the pattern. -/
def startsWith (text pattern : Expr) : Expr := text.method "starts_with" [pattern]

/-- Whether the text ends with the pattern. -/
def endsWith (text pattern : Expr) : Expr := text.method "ends_with" [pattern]

/-- The part from an offset, counted from zero, of a given length if there is one. -/
def substring (text start : Expr) (length : Option Expr) : Expr := text.method "substring" (start :: length.toList)

/-- The text with every occurrence of one text replaced by another. -/
def replace (text what other : Expr) : Expr := text.method "replace" [what, other]

/-- Trims both ends. -/
def trim (text : Expr) : Expr := text.method "trim" []

/-- Trims the start. -/
def trimStart (text : Expr) : Expr := text.method "trim_start" []

/-- Trims the end. -/
def trimEnd (text : Expr) : Expr := text.method "trim_end" []

/-- Upper case. -/
def toUpper (text : Expr) : Expr := text.method "to_upper" []

/-- Lower case. -/
def toLower (text : Expr) : Expr := text.method "to_lower" []

/-- The position of a text, counted from zero; minus one if it does not occur. -/
def indexOf (text what : Expr) : Expr := text.method "index_of" [what]

/-- Splits at a separator. Flink has no such function, so the call is refused when it is written as SQL. -/
def split (text separator : Expr) : Expr := text.method "split" [separator]

/-- All parts in a row. -/
def concat (parts : List Expr) : Expr := .function .string "concat" parts

end Strings

/-! ## Mathematics -/

namespace Maths

/-- Rounds, to a number of digits if one is given. -/
def round (x : Expr) (digits : Option Expr) : Expr := .function .math "round" (x :: digits.toList)

/-- The natural logarithm, or the logarithm to a base. -/
def log (x : Expr) (base : Option Expr) : Expr := .function .math "log" (x :: base.toList)

/-- A power. -/
def pow (x y : Expr) : Expr := .function .math "pow" [x, y]

/-- The largest whole number not above. -/
def floor (x : Expr) : Expr := .function .math "floor" [x]

/-- The smallest whole number not below. -/
def ceiling (x : Expr) : Expr := .function .math "ceiling" [x]

/-- The absolute value. -/
def abs (x : Expr) : Expr := .function .math "abs" [x]

/-- The square root. -/
def sqrt (x : Expr) : Expr := .function .math "sqrt" [x]

/-- The decimal logarithm. -/
def log10 (x : Expr) : Expr := .function .math "log10" [x]

/-- The exponential function. -/
def exp (x : Expr) : Expr := .function .math "exp" [x]

end Maths

/-! ## The function library of Flink -/

namespace Library

/-- A library function by name. -/
def named (name : String) (args : List Expr) : Expr := .function .flink name args

/-- A scalar at a path of a JSON text. -/
def jsonValue (json path : Expr) : Expr := named "json_value" [json, path]

/-- A fragment at a path of a JSON text. -/
def jsonQuery (json path : Expr) : Expr := named "json_query" [json, path]

/-- A timestamp in a format. -/
def dateFormat (time format : Expr) : Expr := named "date_format" [time, format]

/-- One part of a text cut at a separator. -/
def splitIndex (text separator index : Expr) : Expr := named "split_index" [text, separator, index]

/-- The length of a text. -/
def charLength (text : Expr) : Expr := named "char_length" [text]

/-- The distance of two timestamps in a unit. -/
def timestampDiff (unit : String) (start stop : Expr) : Expr :=
  named "timestamp_diff" [.literal (.string unit), start, stop]

/-- The size of an array. -/
def cardinality (array : Expr) : Expr := named "cardinality" [array]

end Library

/-! ## Windows and aggregates -/

namespace WindowBound

/-- The start of the window. -/
def start : Expr := .function .window "start" []

/-- The end of the window. -/
def stop : Expr := .function .window "end" []

/-- The processing time. -/
def proctime : Expr := .function .window "proctime" []

end WindowBound

namespace Aggregate

/-- The number of rows. -/
def count : Expr := .function .aggregate "count" []

/-- The number of rows in which the value is not null. -/
def countOf (x : Expr) : Expr := .function .aggregate "count" [x]

/-- The number of different values. -/
def countDistinct (x : Expr) : Expr := .function .aggregate "count_distinct" [x]

/-- The sum. -/
def sum (x : Expr) : Expr := .function .aggregate "sum" [x]

/-- The mean. -/
def avg (x : Expr) : Expr := .function .aggregate "avg" [x]

/-- The least value. -/
def min (x : Expr) : Expr := .function .aggregate "min" [x]

/-- The greatest value. -/
def max (x : Expr) : Expr := .function .aggregate "max" [x]

/-- The first value by offset. Flink has no such aggregate, so the call is refused when it is written as SQL. -/
def earliest (x : Expr) : Expr := .function .aggregate "earliest_by_offset" [x]

/-- The last value by offset. Flink has no such aggregate, so the call is refused when it is written as SQL. -/
def latest (x : Expr) : Expr := .function .aggregate "latest_by_offset" [x]

end Aggregate

end FlinkSql
