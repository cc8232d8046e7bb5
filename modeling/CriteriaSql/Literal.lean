import CriteriaSql.Calendar.Rfc3339
import CriteriaSql.Double.Printer
import CriteriaSql.Double.Reader
import CriteriaSql.Json.Printer
import CriteriaSql.Text.Basic

/-! The values that stand in a statement, and how the dialect writes them. -/

namespace CriteriaSql

inductive Literal where
  | null
  | bool (b : Bool)
  | int (n : Int)
  | float (x : Double)
  | text (s : String)
  | dateTime (instant : Instant)
  | regex (pattern : String)
  | json (value : Json)

namespace Literal

def isNull : Literal → Bool
  | null => true
  | _ => false

def ofNumber : Json.Number → Literal
  -- Integers end at 63 bits; a greater one goes on as the nearest double.
  | .integer n => if n ≤ greatestInt64 then int n else float (.ofInt n)
  | .float x => float x

/-- A date or a pattern, written as an object of one member. -/
def ofWrapper? : String → String → Option Literal
  | "$date", written => (Rfc3339.parse? written).map dateTime
  | "$regex", written => some (regex written)
  | _, _ => none

/-- Arrays and objects stay JSON, a `$date` that is no date among them. -/
def ofJson : Json → Literal
  | .null => null
  | .bool b => bool b
  | .number n => ofNumber n
  | .string s => text s
  | .array items => json (.array items)
  | .object [(key, .string s)] => (ofWrapper? key s).getD (json (.object [(key, .string s)]))
  | .object members => json (.object members)

/-- Numbers are compared by value, JSON without regard to the order of members. -/
def same : Literal → Literal → Bool
  | null, null => true
  | bool a, bool b => a == b
  | int a, int b => a == b
  | float a, float b => a.same b
  | text a, text b => a == b
  | dateTime a, dateTime b => a == b
  | regex a, regex b => a == b
  | json a, json b => a.same b
  | _, _ => false

end Literal

/-! Text between single quotes. -/

namespace Quoted

/-- A single quote is doubled. A double quote would not be accepted and becomes a space. -/
def encodeChar (c : Char) : List Char :=
  if c = '\'' then ['\'', '\'']
  else if c = '"' then [' ']
  else [c]

def encode (cs : List Char) : List Char :=
  '\'' :: cs.flatMap encodeChar ++ ['\'']

/-- Takes off one pair of quotes, if there is a pair around the whole. -/
def strip : List Char → List Char
  | [] => []
  | c :: rest =>
      if c = '\'' ∧ rest.getLast? = some '\'' then rest.dropLast else c :: rest

@[simp] theorem strip_encode (cs : List Char) : strip (encode cs) = cs.flatMap encodeChar := by
  simp [encode, strip]

end Quoted

/-! Identifiers and literals. -/

/-- In brackets, each single quote doubled. A bracket in the name is left alone. -/
def bracketed (name : String) : String :=
  String.ofList ('[' :: Text.substitute '\'' ['\'', '\''] name.toList ++ [']'])

/-- The dialect has no exponents, and whole numbers have no point. -/
def sqlFloatLayout : Double.Layout where
  tie := .up
  inPlace _ := true
  afterWhole := ""
  nan := "NaN"
  infinity := "inf"

def quote (s : String) : String :=
  String.ofList (Quoted.encode s.toList)

namespace Literal

def sql : Literal → String
  | null => "NULL"
  | bool b => if b then "1" else "0"
  | int n => toString n
  -- What is not finite has no decimal form.
  | float x => if x.isFinite then sqlFloatLayout.text x else "NULL"
  | text s => quote s
  | dateTime instant => quote instant.sqlText
  | regex pattern => quote ("/" ++ pattern ++ "/")
  | json value => quote value.compact

/-- What a column keeps of a value: a date is kept as its text. -/
def forStorage : Literal → Literal
  | dateTime instant => text instant.sqlText
  | value => value

def prepared (value : Literal) : String :=
  value.forStorage.sql

theorem prepared_eq_sql (value : Literal) : value.prepared = value.sql := by
  cases value <;> rfl

end Literal

end CriteriaSql
