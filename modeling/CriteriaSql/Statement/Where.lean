import CriteriaSql.Criteria.Predicate
import CriteriaSql.Literal
import CriteriaSql.Text.Basic

/-! Predicates as the body of a WHERE clause. -/

namespace CriteriaSql

open Text (separated)

/-- Three percent signs stand for one that is no wildcard. Read from the left. -/
def decodePercent : List Char → List Char
  | '%' :: '%' :: '%' :: rest => '\\' :: '%' :: decodePercent rest
  | c :: rest => c :: decodePercent rest
  | [] => []

def equality (column : String) (value : Literal) : String :=
  if value.isNull then column ++ " IS NULL" else column ++ "=" ++ value.prepared

/-- A pattern of its own, with percent signs decoded. -/
def likeSql (column : String) : Literal → Except Fault String
  | .regex _ => .error .regexInLike
  | pattern =>
      .ok (column ++ " LIKE " ++ String.ofList (decodePercent pattern.prepared.toList))

/-- A pattern with wildcards put around what is between the quotes of the literal. -/
def wildcardSql (column before : String) (value : Literal) (after : String) : String :=
  let inside := String.ofList (Quoted.strip value.prepared.toList)
  column ++ " LIKE '" ++ before ++ inside ++ after ++ "'"

namespace Comparator

def sql (comparator : Comparator) (column : String) (value : Literal) : String :=
  match comparator with
  | lessThan => column ++ "<" ++ value.prepared
  | lessThanOrEqual => column ++ "<=" ++ value.prepared
  | greaterThan => column ++ ">" ++ value.prepared
  | greaterThanOrEqual => column ++ ">=" ++ value.prepared
  | not => if value.isNull then column ++ " IS NOT NULL" else column ++ "<>" ++ value.prepared
  | like => wildcardSql column "" value ""
  | contains => wildcardSql column "%" value "%"
  | startsWith => wildcardSql column "" value "%"
  | endsWith => wildcardSql column "%" value ""

end Comparator

def Condition.sql (column : String) : Condition → String
  | equals value => equality column value
  | isIn values => column ++ " IN (" ++ separated ", " (values.map Literal.prepared) ++ ")"
  | compare comparisons =>
      separated " AND " (comparisons.map fun entry => entry.1.sql column entry.2)

mutual

def Clause.sql : Clause → Except Fault String
  | .any branches => do
      return "( " ++ separated " OR " (← branchSqls branches) ++ " )"
  | .all branches => do
      return "( " ++ separated " AND " (← branchSqls branches) ++ " )"
  | .like patterns => do
      return separated " AND " (← patterns.mapM fun entry => likeSql entry.1 entry.2)
  | .column name condition => .ok (condition.sql name)

def clauseSqls : List Clause → Except Fault (List String)
  | [] => .ok []
  | clause :: rest => do
      let sql ← Clause.sql clause
      let sqls ← clauseSqls rest
      return sql :: sqls

/-- Branches have no brackets of their own: AND binds tighter than OR. -/
def branchSqls : List (List Clause) → Except Fault (List String)
  | [] => .ok []
  | branch :: rest => do
      let sqls ← clauseSqls branch
      let others ← branchSqls rest
      return separated " AND " sqls :: others

end

def Predicate.sql (predicate : Predicate) : Except Fault String := do
  return separated " AND " (← clauseSqls predicate)

end CriteriaSql
