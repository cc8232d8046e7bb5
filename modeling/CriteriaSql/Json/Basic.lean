import CriteriaSql.Double.Basic

/-! JSON values. An object's members keep the order in which they were written. -/

namespace CriteriaSql

/-! The integers that have a place in 64 bits. -/

def leastInt64 : Int := -9223372036854775808

def greatestInt64 : Int := 9223372036854775807

/-- The bound without a sign bit. -/
def greatestWord64 : Int := 18446744073709551615

def fitsInt64 (n : Int) : Bool :=
  leastInt64 ≤ n && n ≤ greatestInt64

/-! Values. -/

/-- A number is an integer as long as it is written as one and fits 64 bits. -/
inductive Json.Number where
  | integer (n : Int)
  | float (x : Double)

inductive Json where
  | null
  | bool (b : Bool)
  | number (n : Json.Number)
  | string (s : String)
  | array (items : List Json)
  | object (members : List (String × Json))

namespace Json

instance : Inhabited Json := ⟨.null⟩

def members? : Json → Option (List (String × Json))
  | object members => some members
  | _ => none

def items? : Json → Option (List Json)
  | array items => some items
  | _ => none

def string? : Json → Option String
  | string s => some s
  | _ => none

def integer? : Json → Option Int
  | number (.integer n) => some n
  | _ => none

/-- An integer and a float are never the same number. -/
def Number.same : Number → Number → Bool
  | .integer a, .integer b => a == b
  | .float a, .float b => a.same b
  | _, _ => false

mutual

/-- Equality of values: the order of an object's members does not count. -/
def same : Json → Json → Bool
  | null, null => true
  | bool a, bool b => a == b
  | number a, number b => a.same b
  | string a, string b => a == b
  | array as, array bs => sameItems as bs
  | object as, object bs => as.length == bs.length && sameMembers as bs
  | _, _ => false

def sameItems : List Json → List Json → Bool
  | [], [] => true
  | a :: as, b :: bs => same a b && sameItems as bs
  | _, _ => false

def sameMembers : List (String × Json) → List (String × Json) → Bool
  | [], _ => true
  | (key, a) :: as, bs =>
      (match bs.lookup key with
        | some b => same a b
        | none => false) && sameMembers as bs

end

end Json

end CriteriaSql
