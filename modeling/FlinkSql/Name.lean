import FlinkSql.Text.Character
import FlinkSql.Text.Quoted

/-!
# Names of tables and columns

Names come from topics and from the members of rows, and hold any text. They are normalized into `[a-z][a-z0-9_]*`, and always
written between backticks. Normalizing never fails.
-/

namespace FlinkSql.Name

open Text

/-- Words that Flink reads as keywords or built-in functions when they stand bare. -/
def reserved : List String := ["values", "coalesce"]

/-- The characters a normalized name is made of. -/
def isPlain (c : Char) : Bool := c.isLower || c.isDigit || c == '_'

/-- The character itself if a name may hold it, else an underscore. -/
def masked (c : Char) : Char := if isPlain c then c else '_'

/-- Replaces each run of underscores by a single one. -/
def collapsed : List Char → List Char
  | [] => []
  | [c] => [c]
  | c :: d :: rest => if c = '_' ∧ d = '_' then collapsed (d :: rest) else c :: collapsed (d :: rest)

/-- A name in lower case: blanks at the ends are dropped, and a hyphen counts as an underscore. -/
def lowered (name : String) : List Char :=
  ((trimWhere isBlank name.toList).map fun c => if c = '-' then '_' else c).flatMap lowerCase

/-- What a name keeps when all but `[a-z0-9_]` is masked, runs of underscores are collapsed and those at the ends dropped. -/
def kept (name : String) : List Char :=
  trimWhere (· == '_') (collapsed ((lowered name).map masked))

/-- Whether a name would be read as a number or as a word of the language. -/
def needsLead (base : List Char) : Bool :=
  (base.head?.any Char.isDigit) || reserved.contains (String.ofList base)

/-- Normalizes `name`; a name of which nothing is kept becomes `fallback`. A name that starts with a digit or is a reserved
word is put behind `t_`. -/
def normalize (fallback name : String) : String :=
  let base := if (kept name).isEmpty then fallback.toList else kept name
  String.ofList (if needsLead base then 't' :: '_' :: base else base)

/-- The normalized name of a table. -/
def object (name : String) : String := normalize "object" name

/-- The normalized name of a column, or of a projected value. -/
def column (name : String) : String := normalize "column" name

/-- A table name as it is written in SQL. -/
def quotedObject (name : String) : String := quotedName (object name)

/-- A column name as it is written in SQL. -/
def quotedColumn (name : String) : String := quotedName (column name)

end FlinkSql.Name
