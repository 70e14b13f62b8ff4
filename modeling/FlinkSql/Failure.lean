import FlinkSql.Dict
import FlinkSql.Text.Quoted
import FlinkSql.Time.Span

/-!
# Failures

Why a plan, an expression or a table definition has no SQL. A failure holds its cause; the wording of every cause stands in this
module. There are four kinds of failure:

- *unsupported*: an expression, a member or a function call that has no SQL;
- *dialect constraint*: a plan whose structure is illegal;
- *configuration*: connector settings, properties or table definitions that contradict each other;
- *malformed interval*: a span that is no whole number of one unit.
-/

namespace FlinkSql

/-- Why an expression has no SQL. -/
inductive Unsupported
  /-- A row parameter where a scalar is needed. -/
  | rowAsScalar (param : String)
  /-- A record where a scalar is needed. -/
  | recordAsScalar
  /-- A parameter over a row type that the query does not read. -/
  | notASource (param row : String)
  /-- A parameter over the projected row outside HAVING. -/
  | outputRow (param : String)
  /-- A member that has no SQL function; `target` is the text of the expression it is read from. -/
  | memberAccess (target member : String)
  /-- Infinity, or what is not a number; `number` is its text. -/
  | nonFinite (number : String)
  /-- A decimal literal whose text is not one. -/
  | malformedDecimal (literal : String)
  /-- A rule asks for an argument that the call does not have. -/
  | missingArgument (call : String) (index : Nat)
  /-- A brace in a template that opens no placeholder. -/
  | malformedTemplate (call : String)
  /-- A placeholder whose number does not fit a word. -/
  | hugePlaceholder (template : String)
  /-- A literal string offset that has no successor. -/
  | offsetOutOfRange (offset : Int)
  /-- A time unit that is not a string literal. -/
  | timeUnitNotLiteral (call : String)
  /-- A string literal that is not a time unit. -/
  | unknownTimeUnit (call name : String)
  /-- Grouping keys that are a whole row. -/
  | groupingByRow
  /-- HAVING refers to an output column that is not projected. -/
  | notProjected (reference : String)
  /-- A cause of a custom rule, in its own words. -/
  | other (text : String)
  deriving DecidableEq

/-- Why a plan is illegal. -/
inductive Illegal
  | noSource
  /-- The number of topics is neither zero nor that of the sources. -/
  | topicCount (topics sources : Nat)
  | windowWithJoin
  /-- The number of join predicates is not one less than that of the sources. -/
  | joinCount (joins sources : Nat)
  | hopWithoutSlide
  | havingWithoutGroups
  /-- A projected column whose normalized name is taken. -/
  | aliasCollision (label name : String)
  | finalWithoutWindow
  /-- The number of source tables is not that of the sources. -/
  | tableCount (tables sources : Nat)
  /-- Another cause, in its own words. -/
  | other (text : String)
  deriving DecidableEq

/-- Why settings or a table definition are refused. -/
inductive Misconfigured
  | unsupportedFormat (format : String)
  /-- The text of the connector options cannot be read. -/
  | unreadableOptions
  /-- A layer would change a reserved property. -/
  | reservedChanged (key layer old new : String)
  /-- A layer would add a reserved property. -/
  | reservedAdded (key layer : String)
  /-- Two layers disagree, and the later one may not override. -/
  | conflict (key old oldLayer new newLayer : String)
  | unknownStartupMode (mode : String)
  | startupTimestampMissing
  | startupTimestampMalformed (value : String)
  | startupOffsetsMissing
  | startupOffsetsMalformed (value : String)
  | decimalBounds (column : String) (precision scale : Nat)
  | noColumns (table : String)
  | twoEventTimes (table first second : String)
  /-- An event-time column of another type; `type` is the name of that type. -/
  | eventTimeType (column type : String)
  | delayWithoutEventTime (table : String)
  | unknownKey (key table : String)
  /-- Another cause, in its own words. -/
  | other (text : String)
  deriving DecidableEq

/-- Why a span is no interval. -/
inductive BadInterval
  | subMillisecond (span : Span)
  | notPositive (span : Span)
  | notWhole (span : Span)
  /-- The number of units does not fit a word. -/
  | tooLarge (span : Span)
  /-- Another cause, in its own words. -/
  | other (text : String)
  deriving DecidableEq

/-- Why there is no SQL. -/
inductive Failure
  | expression (cause : Unsupported)
  /-- A function call without a rule, or refused by its rule, with what to do instead. -/
  | function (call : String) (hint : Option String)
  | constraint (cause : Illegal)
  | configuration (cause : Misconfigured)
  | interval (cause : BadInterval)
  deriving DecidableEq

/-- The four kinds of failure. -/
inductive FailureKind
  | unsupported
  | dialectConstraint
  | configuration
  | malformedInterval
  deriving DecidableEq, Repr

instance : Named FailureKind where
  all := [.unsupported, .dialectConstraint, .configuration, .malformedInterval]
  name
    | .unsupported => "Unsupported"
    | .dialectConstraint => "DialectConstraint"
    | .configuration => "Configuration"
    | .malformedInterval => "MalformedInterval"

/-- The cause in words. -/
def Unsupported.message : Unsupported → String
  | .rowAsScalar param => s!"the whole row `{param}` cannot be used as a scalar value"
  | .recordAsScalar => "record construction is only allowed as a projection or grouping"
  | .notASource param row => s!"parameter `{param}` ranges over `{row}`, which is not a source of this query"
  | .outputRow param => s!"output row `{param}` can only be referenced from HAVING"
  | .memberAccess target member => s!"member access `{target}.{member}`"
  | .nonFinite number => s!"non-finite numeric literal {number}"
  | .malformedDecimal literal => "malformed decimal literal " ++ Text.quotedString literal
  | .missingArgument call index => s!"`{call}` is missing argument {index}"
  | .malformedTemplate call => s!"malformed template for `{call}`"
  | .hugePlaceholder template => s!"bad placeholder in `{template}`"
  | .offsetOutOfRange offset => s!"string offset {offset} is out of range"
  | .timeUnitNotLiteral call => s!"`{call}` needs a literal time unit"
  | .unknownTimeUnit call name => s!"`{call}` does not accept time unit '{name}'"
  | .groupingByRow => "grouping by a whole row"
  | .notProjected reference => s!"HAVING references `{reference}` which is not a projected column"
  | .other text => text

/-- The cause in words. -/
def Illegal.message : Illegal → String
  | .noSource => "query has no source"
  | .topicCount topics sources => s!"{topics} source topics given for {sources} sources"
  | .windowWithJoin =>
    "a window cannot be combined with a join; materialize the windowed result first, then join it"
  | .joinCount joins sources => s!"{joins} join predicates given for {sources} sources"
  | .hopWithoutSlide => "HOP window requires a slide"
  | .havingWithoutGroups => "HAVING requires GROUP BY or an aggregate projection"
  | .aliasCollision label name => s!"projection column `{label}` collides with another column named `{name}`"
  | .finalWithoutWindow => "final output mode requires a window"
  | .tableCount tables sources => s!"{tables} source tables given for {sources} sources"
  | .other text => text

/-- The cause in words. -/
def Misconfigured.message : Misconfigured → String
  | .unsupportedFormat format => s!"unsupported format '{format}'; only 'avro-confluent' is supported"
  | .unreadableOptions => "invalid connector options: "
  | .reservedChanged key layer old new =>
    s!"WITH property '{key}' is reserved and cannot be overridden by '{layer}' ('{old}' -> '{new}')"
  | .reservedAdded key layer => s!"WITH property '{key}' is reserved and cannot be set by '{layer}'"
  | .conflict key old oldLayer new newLayer =>
    s!"WITH property '{key}' conflicts: '{old}' from '{oldLayer}' vs '{new}' from '{newLayer}'"
  | .unknownStartupMode mode =>
    s!"'scan.startup.mode' = '{mode}' is not one of " ++
      "earliest-offset, latest-offset, group-offsets, timestamp, specific-offsets"
  | .startupTimestampMissing => "startup mode 'timestamp' requires 'scan.startup.timestamp-millis'"
  | .startupTimestampMalformed value =>
    s!"'scan.startup.timestamp-millis' must be a non-negative integer, found '{value}'"
  | .startupOffsetsMissing => "startup mode 'specific-offsets' requires 'scan.startup.specific-offsets'"
  | .startupOffsetsMalformed value =>
    "'scan.startup.specific-offsets' must look like 'partition:0,offset:42;partition:1,offset:300', " ++
      s!"found '{value}'"
  | .decimalBounds column precision scale =>
    s!"column `{column}` has invalid decimal precision/scale ({precision}, {scale})"
  | .noColumns table => s!"table `{table}` has no columns"
  | .twoEventTimes table first second =>
    s!"table `{table}` declares more than one event-time column (`{first}`, `{second}`)"
  | .eventTimeType column type => s!"event-time column `{column}` must be a timestamp, found {type}"
  | .delayWithoutEventTime table => s!"table `{table}` sets a watermark delay but has no event-time column"
  | .unknownKey key table => s!"primary key column `{key}` is not a column of `{table}`"
  | .other text => text

/-- The cause in words. -/
def BadInterval.message : BadInterval → String
  | .subMillisecond span => span.text ++ " has sub-millisecond precision"
  | .notPositive span => span.text ++ " is not a positive interval"
  | .notWhole span => span.text ++ " is not a whole number of days, hours, minutes or seconds"
  | .tooLarge span => span.text ++ " is too large"
  | .other text => text

namespace Failure

/-- The kind of a failure. -/
def kind : Failure → FailureKind
  | .expression _ => .unsupported
  | .function _ _ => .unsupported
  | .constraint _ => .dialectConstraint
  | .configuration _ => .configuration
  | .interval _ => .malformedInterval

/-- The failure in words: what went wrong in general, then the cause. -/
def message : Failure → String
  | .expression cause => "unsupported expression: " ++ cause.message
  | .function call none => s!"unsupported function call `{call}`"
  | .function call (some hint) => s!"unsupported function call `{call}` ({hint})"
  | .constraint cause => "dialect constraint violated: " ++ cause.message
  | .configuration cause => "configuration error: " ++ cause.message
  | .interval cause => "malformed interval: " ++ cause.message

end Failure

end FlinkSql
