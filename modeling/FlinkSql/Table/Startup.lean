import FlinkSql.Number.Spelling
import FlinkSql.Table.Properties
import FlinkSql.Text.Character

/-!
# Where a source starts to read

The startup mode of a source is one of five words. Two of them need another property: a moment in milliseconds, or an offset
for each partition.
-/

namespace FlinkSql.Startup

/-- The property with the mode. -/
def modeKey : String := "scan.startup.mode"

/-- The property with the moment to start from. -/
def timestampKey : String := "scan.startup.timestamp-millis"

/-- The property with the offsets to start from. -/
def offsetsKey : String := "scan.startup.specific-offsets"

/-- The modes. -/
inductive Mode
  | earliestOffset
  | latestOffset
  | groupOffsets
  | timestamp
  | specificOffsets
  deriving DecidableEq, Repr

/-- The mode with a name. -/
def Mode.ofName? : String → Option Mode
  | "earliest-offset" => some .earliestOffset
  | "latest-offset" => some .latestOffset
  | "group-offsets" => some .groupOffsets
  | "timestamp" => some .timestamp
  | "specific-offsets" => some .specificOffsets
  | _ => none

/-- Whether a text is a whole number that fits a 64-bit word; a plus sign may stand in front. -/
def isMillis (text : String) : Bool :=
  let ds := match text.toList with
    | [] => []
    | c :: rest => if c = '+' then rest else c :: rest
  !ds.isEmpty && ds.all Char.isDigit && Number.ofDigits ds < UInt64.size

/-- The parts of a text between separators; one more than there are separators. -/
def parts (separator : Char) : List Char → List (List Char)
  | [] => [[]]
  | c :: rest =>
    if c = separator then [] :: parts separator rest
    else match parts separator rest with
      | [] => [[c]]
      | first :: others => (c :: first) :: others

/-- What follows a word, if the text starts with it. -/
def after? (word : String) (s : List Char) : Option (List Char) :=
  if word.toList.isPrefixOf s then some (s.drop word.length) else none

/-- Whether a text is the offset of one partition: `partition:0,offset:42`, with decimal digits of any script. -/
def isOffset (s : List Char) : Bool :=
  match after? "partition:" s with
  | none => false
  | some s =>
    !(s.takeWhile Text.isDecimalDigit).isEmpty &&
      match after? ",offset:" (s.dropWhile Text.isDecimalDigit) with
      | none => false
      | some ds => !ds.isEmpty && ds.all Text.isDecimalDigit

/-- Whether a text is a list of offsets with semicolons between them. -/
def isOffsets (text : String) : Bool := (parts ';' text.toList).all isOffset

/-- Checks the startup mode of a source and the property that it needs. -/
def check (w : WithClause) : Except Failure Unit :=
  match w.get? modeKey with
  | none => .ok ()
  | some name =>
    match Mode.ofName? name with
    | none => .error (.configuration (.unknownStartupMode name))
    | some .timestamp =>
      match w.get? timestampKey with
      | none => .error (.configuration .startupTimestampMissing)
      | some millis =>
        if isMillis millis then .ok () else .error (.configuration (.startupTimestampMalformed millis))
    | some .specificOffsets =>
      match w.get? offsetsKey with
      | none => .error (.configuration .startupOffsetsMissing)
      | some offsets =>
        if isOffsets offsets then .ok () else .error (.configuration (.startupOffsetsMalformed offsets))
    | some _ => .ok ()

end FlinkSql.Startup
