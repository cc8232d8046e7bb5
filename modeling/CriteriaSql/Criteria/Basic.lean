import CriteriaSql.Criteria.Predicate

/-! What a select asks for, and how it is written in JSON. -/

namespace CriteriaSql

inductive SortOrder where
  | ascending
  | descending
  deriving DecidableEq

namespace SortOrder

/-- The number one, written in whatever way, is ascending, and all else descending. -/
def ofJson : Json → SortOrder
  | .number (.integer n) => if n = 1 then ascending else descending
  | .number (.float x) => if x = .one then ascending else descending
  | _ => descending

def sql : SortOrder → String
  | ascending => "ASC"
  | descending => "DESC"

end SortOrder

structure Criteria where
  filter : Option Predicate
  sort : List (String × SortOrder)
  groupBy : List String
  sum : List String
  average : List String
  min : List String
  max : List String
  limit : Option Nat

namespace Criteria

def empty : Criteria where
  filter := none
  sort := []
  groupBy := []
  sum := []
  average := []
  min := []
  max := []
  limit := none

/-! Building criteria part by part. -/

def withFilter (criteria : Criteria) (filter : Predicate) : Criteria :=
  { criteria with filter := some filter }

def sortedBy (criteria : Criteria) (column : String) (order : SortOrder) : Criteria :=
  { criteria with sort := criteria.sort ++ [(column, order)] }

def groupedBy (criteria : Criteria) (column : String) : Criteria :=
  { criteria with groupBy := criteria.groupBy ++ [column] }

def withSum (criteria : Criteria) (column : String) : Criteria :=
  { criteria with sum := criteria.sum ++ [column] }

def withAverage (criteria : Criteria) (column : String) : Criteria :=
  { criteria with average := criteria.average ++ [column] }

def withMin (criteria : Criteria) (column : String) : Criteria :=
  { criteria with min := criteria.min ++ [column] }

def withMax (criteria : Criteria) (column : String) : Criteria :=
  { criteria with max := criteria.max ++ [column] }

def limitedTo (criteria : Criteria) (limit : Nat) : Criteria :=
  { criteria with limit := some limit }

def hasCalculation (criteria : Criteria) : Bool :=
  !(criteria.sum.isEmpty && criteria.average.isEmpty &&
    criteria.min.isEmpty && criteria.max.isEmpty)

def isAggregate (criteria : Criteria) : Bool :=
  !criteria.groupBy.isEmpty || criteria.hasCalculation

/-- Grouping makes sense only with something to calculate for each group. -/
def validate (criteria : Criteria) : Except Fault Unit :=
  if criteria.isAggregate && !criteria.hasCalculation then .error .groupWithoutCalculation
  else .ok ()

def same (a b : Criteria) : Bool :=
  (match a.filter, b.filter with
    | none, none => true
    | some p, some q => Predicate.same p q
    | _, _ => false) &&
  a.sort == b.sort && a.groupBy == b.groupBy && a.sum == b.sum && a.average == b.average &&
  a.min == b.min && a.max == b.max && a.limit == b.limit

/-! Criteria as they are written in JSON. -/

/-- A member that is given and not null. -/
def given? (members : List (String × Json)) (key : String) : Option Json :=
  match members.lookup key with
  | none | some .null => none
  | some value => some value

/-- A filter without clauses is no filter. -/
def filterOf (members : List (String × Json)) : Except Fault (Option Predicate) :=
  match given? members "where" with
  | none => .ok none
  | some value => do
      let predicate ← Predicate.ofJson value
      return if predicate.isEmpty then none else some predicate

def sortOf (members : List (String × Json)) : Except Fault (List (String × SortOrder)) :=
  match given? members "sort" with
  | none => .ok []
  | some (.object columns) => .ok (columns.map fun entry => (entry.1, .ofJson entry.2))
  | some _ => .error (.malformed .sortNotObject)

def columnName (key : String) : Json → Except Fault String
  | .string column => .ok column
  | _ => .error (.malformed (.columnNotText key))

/-- One column or an array of them. The empty name alone is no column. -/
def columnsOf (members : List (String × Json)) (key : String) : Except Fault (List String) :=
  match given? members key with
  | none => .ok []
  | some (.string column) => .ok (if column = "" then [] else [column])
  | some (.array columns) => columns.mapM (columnName key)
  | some _ => .error (.malformed (.columnsNotList key))

def limitOf (members : List (String × Json)) : Except Fault (Option Nat) :=
  match given? members "limit" with
  | none => .ok none
  | some value =>
      match value.integer? with
      | some (.ofNat n) =>
          if n ≤ greatestWord64 then .ok (some n) else .error (.malformed .limitNotNatural)
      | _ => .error (.malformed .limitNotNatural)

/-- The members are looked at in a fixed order, whatever order they are written in. -/
def ofMembers (members : List (String × Json)) : Except Fault Criteria := do
  let filter ← filterOf members
  let sort ← sortOf members
  let groupBy ← columnsOf members "groupBy"
  let sum ← columnsOf members "sum"
  let average ← columnsOf members "average"
  let min ← columnsOf members "min"
  let max ← columnsOf members "max"
  let limit ← limitOf members
  return { filter, sort, groupBy, sum, average, min, max, limit }

def ofJson : Json → Except Fault Criteria
  | .object members => ofMembers members
  | _ => .error (.malformed .criteriaNotObject)

end Criteria

end CriteriaSql
