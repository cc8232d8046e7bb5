import CriteriaSql.Event
import CriteriaSql.Json.Basic
import CriteriaSql.OrderedMap
import CriteriaSql.Text.Basic

/-!
Column definitions with the column types of the dialect, and the rows that an execution service
answers with, which may describe columns.
-/

namespace CriteriaSql

inductive ColumnType where
  | nVarChar
  | nText
  | bit
  | int
  | float
  | date
  | time
  | dateTime
  | text
  deriving DecidableEq

namespace ColumnType

def sql : ColumnType → String
  | nVarChar => "NVARCHAR(255)"
  | nText => "NTEXT"
  | bit => "BIT"
  | int => "INT"
  | float => "FLOAT"
  | date => "DATE"
  | time => "TIME"
  | dateTime => "DATETIME"
  | text => "TEXT"

/-- The type of a declaration in lower case. -/
def registered? : String → Option ColumnType
  | "string" => some nVarChar
  | "text" | "array" | "json" => some nText
  | "boolean" => some bit
  | "int" | "integer" => some int
  | "float" | "double" => some float
  | "date" => some date
  | "time" => some time
  | "datetime" => some dateTime
  | _ => none

/-- No declaration and an unknown one are text, and are reported. -/
def ofDeclared (declared : Option String) : Logged ColumnType :=
  let lowered := declared.map Text.lower
  match lowered.bind registered? with
  | some type => ⟨type, []⟩
  | none => ⟨text, [.typeUnregistered lowered]⟩

end ColumnType

/-! Column definitions. -/

structure Column where
  declaredType : Option String
  primaryKey : Bool
  unique : Bool
  autoIncrement : Bool
  indexed : Bool
  nullable : Bool
  deriving DecidableEq

/-- Columns by name, in order. -/
abbrev Definition := OrderedMap Column

namespace Column

def plain (declaredType : Option String) : Column where
  declaredType
  primaryKey := false
  unique := false
  autoIncrement := false
  indexed := false
  nullable := false

def type (column : Column) : Logged ColumnType :=
  ColumnType.ofDeclared column.declaredType

def toJson (column : Column) : Json :=
  .object [
    ("type", match column.declaredType with
      | none => .null
      | some declared => .string declared),
    ("primary_key", .bool column.primaryKey),
    ("unique", .bool column.unique),
    ("auto_increment", .bool column.autoIncrement),
    ("indexed", .bool column.indexed),
    ("nullable", .bool column.nullable)]

end Column

/-! Rows. -/

/-- The values of a row by column. -/
abbrev Row := OrderedMap Json

/-- Columns of fixed width come padded with blanks. Text inside arrays and objects is kept. -/
def trimValue : Json → Json
  | .string s => .string (Text.trimEnd s)
  | value => value

def normalizeRows (rows : List Row) : List Row :=
  rows.map fun row => row.map trimValue

/-! Column definitions from the rows that describe a table. -/

/-- A flag is set by true or by an integer that is not zero and fits 64 bits with its sign. -/
def flagOf (row : Row) (key : String) : Bool :=
  match row.get? key with
  | some (.bool b) => b
  | some (.number (.integer n)) => n != 0 && fitsInt64 n
  | _ => false

def Column.ofDescription (row : Row) : Column where
  declaredType := ((row.get? "TypeName").bind Json.string?).map Text.trimEnd
  primaryKey := flagOf row "PrimaryKey"
  unique := flagOf row "Unique"
  autoIncrement := flagOf row "AutoIncrement"
  indexed := flagOf row "Indexed"
  nullable := flagOf row "Nullable"

/-- A row that names no column describes none. -/
def describedColumn? (row : Row) : Option (String × Column) := do
  let name ← (← row.get? "ColumnName").string?
  return (Text.trimEnd name, .ofDescription row)

def Definition.ofDescription (rows : List Row) : Definition :=
  .ofList (rows.filterMap describedColumn?)

end CriteriaSql
