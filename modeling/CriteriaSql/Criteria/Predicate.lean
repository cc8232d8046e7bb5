import CriteriaSql.Fault
import CriteriaSql.Literal
import CriteriaSql.Text.Basic

/-! Conditions on rows, and their form in JSON. -/

namespace CriteriaSql

/-! Comparators and the keys that name them. -/

inductive Comparator where
  | lessThan
  | lessThanOrEqual
  | greaterThan
  | greaterThanOrEqual
  | not
  | like
  | contains
  | startsWith
  | endsWith
  deriving DecidableEq

/-- Case matters in a key. -/
def Comparator.ofKey? : String → Option Comparator
  | "<" | "lessThan" => some lessThan
  | "<=" | "lessThanOrEqual" => some lessThanOrEqual
  | ">" | "greaterThan" => some greaterThan
  | ">=" | "greaterThanOrEqual" => some greaterThanOrEqual
  | "!" | "not" => some not
  | "like" => some like
  | "contains" => some contains
  | "startsWith" => some startsWith
  | "endsWith" => some endsWith
  | _ => none

/-! Conditions, clauses and predicates. -/

inductive Condition where
  | equals (value : Literal)
  | isIn (values : List Literal)
  /-- All the comparisons have to hold. -/
  | compare (comparisons : List (Comparator × Literal))

inductive Clause where
  /-- One of the branches holds; in each, all of its clauses. -/
  | any (branches : List (List Clause))
  | all (branches : List (List Clause))
  /-- Every column matches its pattern. -/
  | like (patterns : List (String × Literal))
  | column (name : String) (condition : Condition)

/-- All the clauses have to hold. -/
abbrev Predicate := List Clause

namespace Predicate

/-! Building a predicate clause by clause. -/

def equals (predicate : Predicate) (column : String) (value : Literal) : Predicate :=
  predicate ++ [.column column (.equals value)]

def isIn (predicate : Predicate) (column : String) (values : List Literal) : Predicate :=
  predicate ++ [.column column (.isIn values)]

def compare (predicate : Predicate) (column : String) (comparator : Comparator)
    (value : Literal) : Predicate :=
  predicate ++ [.column column (.compare [(comparator, value)])]

def compareAll (predicate : Predicate) (column : String)
    (comparisons : List (Comparator × Literal)) : Predicate :=
  predicate ++ [.column column (.compare comparisons)]

def like (predicate : Predicate) (column : String) (pattern : Literal) : Predicate :=
  predicate ++ [.like [(column, pattern)]]

def any (predicate : Predicate) (branches : List Predicate) : Predicate :=
  predicate ++ [.any branches]

def all (predicate : Predicate) (branches : List Predicate) : Predicate :=
  predicate ++ [.all branches]

end Predicate

/-- One comparator among its keys makes an object a list of comparisons. -/
def isComparison : Json → Bool
  | .object members => members.any fun member => (Comparator.ofKey? member.1).isSome
  | _ => false

def Condition.comparison (key : String) (operand : Json) : Except Fault (Comparator × Literal) :=
  match Comparator.ofKey? key with
  | none => .error (.unknownComparator key)
  | some comparator =>
      if isComparison operand then
        .error (.malformed (.nestedComparator key))
      else
        .ok (comparator, .ofJson operand)

def Condition.ofJson (json : Json) : Except Fault Condition :=
  match json with
  | .object members =>
      if isComparison json then do
        return .compare (← members.mapM fun member => comparison member.1 member.2)
      else
        .ok (.equals (.ofJson json))
  | json => .ok (.equals (.ofJson json))

/-- The keys with a meaning of their own, in any mixture of cases. -/
inductive Keyword where
  | or
  | and
  | like
  | not

def Keyword.ofKey? (key : String) : Option Keyword :=
  match Text.lower key with
  | "or" => some or
  | "and" => some and
  | "like" => some like
  | "not" => some not
  | _ => none

/-- The clause of a key whose value is no array. -/
def Clause.ofMember (key : String) (value : Json) : Except Fault Clause :=
  match Keyword.ofKey? key with
  | some .or | some .and => .error (.malformed (.branchesNotArray key))
  | some .like =>
      match value.members? with
      | none => .error (.malformed .patternsNotObject)
      | some patterns => .ok (.like (patterns.map fun entry => (entry.1, .ofJson entry.2)))
  | some .not => .error .groupNegation
  | none => do return .column key (← Condition.ofJson value)

mutual

def Predicate.ofJson : Json → Except Fault Predicate
  | .object members => clausesOfMembers members
  | _ => .error (.malformed .whereNotObject)

def clausesOfMembers : List (String × Json) → Except Fault (List Clause)
  | [] => .ok []
  | (key, value) :: rest => do
      let clause ← clauseOf key value
      let clauses ← clausesOfMembers rest
      return clause :: clauses

/-- An array is a list of branches under `or` and `and`, and a list of values under any other key,
`like` and `not` included. -/
def clauseOf (key : String) : Json → Except Fault Clause
  | .array items =>
      match Keyword.ofKey? key with
      | some .or => do return .any (← branchesOf items)
      | some .and => do return .all (← branchesOf items)
      | _ => .ok (.column key (.isIn (items.map .ofJson)))
  | value => Clause.ofMember key value

def branchesOf : List Json → Except Fault (List (List Clause))
  | [] => .ok []
  | item :: rest => do
      let branch ← Predicate.ofJson item
      let branches ← branchesOf rest
      return branch :: branches

end

/-! Equality by the meaning of the literals. -/

def sameList (same : α → β → Bool) : List α → List β → Bool
  | [], [] => true
  | a :: as, b :: bs => same a b && sameList same as bs
  | _, _ => false

def Condition.same : Condition → Condition → Bool
  | equals a, equals b => a.same b
  | isIn as, isIn bs => sameList Literal.same as bs
  | compare as, compare bs => sameList (fun a b => a.1 == b.1 && a.2.same b.2) as bs
  | _, _ => false

mutual

def Clause.same : Clause → Clause → Bool
  | .any as, .any bs => sameBranches as bs
  | .all as, .all bs => sameBranches as bs
  | .like as, .like bs => sameList (fun a b => a.1 == b.1 && a.2.same b.2) as bs
  | .column a p, .column b q => a == b && p.same q
  | _, _ => false

def Predicate.same : List Clause → List Clause → Bool
  | [], [] => true
  | a :: as, b :: bs => Clause.same a b && Predicate.same as bs
  | _, _ => false

def sameBranches : List (List Clause) → List (List Clause) → Bool
  | [], [] => true
  | a :: as, b :: bs => Predicate.same a b && sameBranches as bs
  | _, _ => false

end

end CriteriaSql
