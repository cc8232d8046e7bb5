import CriteriaSql.Criteria.Basic
import CriteriaSql.Schema.Registry
import CriteriaSql.Statement.Where

/-! Statements: selects, rows to insert, and the column lists of tables. -/

namespace CriteriaSql

open Text (separated)

/-! SELECT statements. Every part is followed by one space. -/

namespace Criteria

/-- An aggregate column bears the name of the column it is calculated from. -/
def calculation (function column : String) : String :=
  function ++ "(" ++ column ++ ") AS " ++ column

def aggregateColumns (criteria : Criteria) : List String :=
  criteria.groupBy ++ criteria.sum.map (calculation "SUM") ++
    criteria.average.map (calculation "AVG") ++ criteria.max.map (calculation "MAX") ++
    criteria.min.map (calculation "MIN")

def aggregateSql (table : String) (criteria : Criteria) : String :=
  "SELECT " ++ separated ", " criteria.aggregateColumns ++ " FROM " ++ table ++ " "

/-- Zero is no limit. -/
def topSql (limit : Option Nat) : String :=
  match limit with
  | none | some 0 => ""
  | some n => "TOP " ++ toString n ++ " "

def whereSql : Option Predicate → Except Fault String
  | none => .ok ""
  | some predicate => do return "WHERE " ++ (← predicate.sql) ++ " "

def orderSql (sort : List (String × SortOrder)) : String :=
  if sort.isEmpty then ""
  else
    "ORDER BY " ++ separated ", " (sort.map fun entry => entry.1 ++ " " ++ entry.2.sql) ++ " "

def plainSql (table : String) (criteria : Criteria) : Except Fault String := do
  let filter ← whereSql criteria.filter
  return "SELECT " ++ topSql criteria.limit ++ "* FROM " ++ table ++ " " ++ filter ++
    orderSql criteria.sort

/-- An aggregate select leaves out filter, order and limit, and says so if there are any. -/
def select (table : String) (criteria : Criteria) : Except Fault (Logged String) := do
  criteria.validate
  if criteria.isAggregate then
    let ignored := criteria.filter.isSome || !criteria.sort.isEmpty || criteria.limit.isSome
    return ⟨aggregateSql table criteria, if ignored then [.clausesIgnored table] else []⟩
  else
    return ⟨← plainSql table criteria, []⟩

end Criteria

def selectOfJson (table : String) (json : Json) : Except Fault (Logged String) := do
  (← Criteria.ofJson json).select table

/-! Statements over a map from columns to values. -/

abbrev Values := OrderedMap Literal

namespace Values

def ofJson : Json → Except Fault Values
  | .object members => .ok (.ofList (members.map fun entry => (entry.1, .ofJson entry.2)))
  | _ => .error (.malformed .valuesNotObject)

def columnsSql (values : Values) : String :=
  separated ", " (OrderedMap.keys values)

def literalsSql (values : Values) : String :=
  separated ", " ((OrderedMap.values values).map Literal.prepared)

/-- The row is followed by a select of the key it was given. -/
def insertSql (table : String) (values : Values) : String :=
  "INSERT INTO " ++ table ++ " (" ++ values.columnsSql ++ ") VALUES (" ++ values.literalsSql ++
    "); SELECT @@IDENTITY AS " ++ bracketed defaultPrimaryKey

/-- The condition that every column has its value. -/
def criteriaSql (values : Values) : String :=
  separated " AND " (values.entries.map fun entry => equality entry.1 entry.2)

end Values

/-! Column lists of tables, and statements that change them. -/

namespace Column

/-- An integer primary key numbers itself; any other one is a short text. -/
def sqlOf (name : String) (column : Column) (type : ColumnType) : String :=
  if column.primaryKey then
    if type = .int then name ++ " " ++ type.sql ++ " IDENTITY(1,1) PRIMARY KEY"
    else name ++ " VARCHAR(255) NOT NULL PRIMARY KEY"
  else if column.unique then name ++ " " ++ type.sql ++ " UNIQUE"
  else name ++ " " ++ type.sql ++ " "

/-- The declared type is looked up, and reported, even where another one is written. -/
def sql (name : String) (column : Column) : Logged String := do
  return column.sqlOf name (← column.type)

end Column

def Definition.sql (definition : Definition) : Logged String :=
  Text.separatedM ", " (fun entry : String × Column => entry.2.sql entry.1) definition.entries

def addColumnSql (table name : String) (column : Column) : Logged String := do
  return "ALTER TABLE " ++ table ++ " ADD " ++ (← column.sql name)

def dropColumnSql (table name : String) : String :=
  "ALTER TABLE " ++ table ++ " DROP COLUMN " ++ name

end CriteriaSql
