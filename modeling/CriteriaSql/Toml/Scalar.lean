import CriteriaSql.Calendar.Rfc3339
import CriteriaSql.Double.Reader
import CriteriaSql.Json.Basic
import CriteriaSql.Toml.Quoted
import CriteriaSql.Toml.Value

/-! Numbers, truth values and date-times, each a run of characters without blanks. -/

namespace CriteriaSql.Toml

open Text (hexValue? decimalValue)

def isWordChar (c : Char) : Bool :=
  c.isAlphanum || c = '_' || c = '+' || c = '-' || c = '.' || c = ':'

/-- Takes out the underscores, each of which has to stand between two digits. -/
def joinDigits (isDigit : Char → Bool) : List Char → Option (List Char)
  | [] => none
  | [c] => if isDigit c then some [c] else none
  | a :: '_' :: b :: rest => do
      if isDigit a then return a :: (← joinDigits isDigit (b :: rest)) else none
  | c :: rest => do
      if isDigit c then return c :: (← joinDigits isDigit rest) else none

def readSign : List Char → Option Bool × List Char
  | '-' :: rest => (some true, rest)
  | '+' :: rest => (some false, rest)
  | cs => (none, cs)

/-- Integers have 64 bits. -/
def integerOf (negative : Bool) (size : Nat) : Option Value :=
  let n : Int := if negative then -size else size
  if fitsInt64 n then some (.integer n) else none

def radixOf? (c : Char) : Option Nat :=
  if c = 'x' then some 16
  else if c = 'o' then some 8
  else if c = 'b' then some 2
  else none

/-- An integer to the base 16, 8 or 2, which bears no sign. -/
def radixInteger? : List Char → Option Value
  | '0' :: mark :: digits => do
      let radix ← radixOf? mark
      let isDigit (c : Char) : Bool := (hexValue? c).any (· < radix)
      let values ← (← joinDigits isDigit digits).mapM hexValue?
      integerOf false (values.foldl (fun n value => n * radix + value) 0)
  | _ => none

/-- The whole part of a number: no zeros in front. -/
def wholeDigits? (cs : List Char) : Option (List Char) := do
  let digits ← joinDigits Char.isDigit cs
  if digits.head? = some '0' ∧ 1 < digits.length then none else return digits

def cutAt (isMark : Char → Bool) (cs : List Char) : List Char × Option (List Char) :=
  match cs.dropWhile fun c => !isMark c with
  | [] => (cs, none)
  | _ :: rest => (cs.takeWhile fun c => !isMark c, some rest)

def exponentOf? : Option (List Char) → Option Int
  | none => some 0
  | some cs => do
      let (sign, cs) := readSign cs
      let size : Int := decimalValue (← joinDigits Char.isDigit cs)
      return if sign = some true then -size else size

def fractionOf? : Option (List Char) → Option (List Char)
  | none => some []
  | some cs => joinDigits Char.isDigit cs

/-- A float beyond the greatest double is refused. -/
def floatOf? (negative : Bool) (cs : List Char) : Option Value := do
  let (mantissa, power) := cutAt (fun c => c = 'e' || c = 'E') cs
  let (whole, fraction) := cutAt (· = '.') mantissa
  let digits ← wholeDigits? whole
  let fraction ← fractionOf? fraction
  let exponent ← exponentOf? power
  let significand := decimalValue (digits ++ fraction)
  let x := Double.ofDecimal negative significand (exponent - fraction.length)
  if x = .infinite false then none else return .float x

def numberOf? (word : List Char) : Option Value :=
  let (sign, cs) := readSign word
  let negative := sign = some true
  if cs = "inf".toList then some (.float (.infinite negative))
  else if cs = "nan".toList then some (.float .nan)
  else if cs.any fun c => c = '.' || c = 'e' || c = 'E' then floatOf? negative cs
  else do integerOf negative (decimalValue (← wholeDigits? cs))

/-! Date-times. -/

def isDate (cs : List Char) : Bool :=
  (Rfc3339.readDate cs).any fun (_, rest) => rest.isEmpty

/-- A time of day, with a fraction of the second or without. -/
def skipTime (cs : List Char) : Option (List Char) := do
  let (_, cs) ← Rfc3339.readTime cs
  let (_, cs) ← Rfc3339.readFraction cs
  return cs

def skipOffset : List Char → Option (List Char)
  | [] => some []
  | cs => (Rfc3339.readOffset cs).map Prod.snd

def skipDateTime (cs : List Char) : Option (List Char) := do
  let (_, cs) ← Rfc3339.readDate cs
  skipOffset (← skipTime (← Rfc3339.readMark ['T', 't', ' '] cs))

/-- A date, a time of day, or both with or without an offset. -/
def isDateTime (cs : List Char) : Bool :=
  isDate cs || skipTime cs == some [] || skipDateTime cs == some []

/-- A word, or a date and a time of day with one space between them. -/
def spanScalar (cs : List Char) : List Char × List Char :=
  let word := cs.takeWhile isWordChar
  let rest := cs.dropWhile isWordChar
  match rest with
  | ' ' :: d :: more =>
      if isDate word && d.isDigit then
        (word ++ ' ' :: (d :: more).takeWhile isWordChar, (d :: more).dropWhile isWordChar)
      else
        (word, rest)
  | _ => (word, rest)

def scalarOf? (word : List Char) : Option Value :=
  if word = "true".toList then some (.boolean true)
  else if word = "false".toList then some (.boolean false)
  else if isDateTime word then some (.dateTime (String.ofList word))
  else (radixInteger? word).or (numberOf? word)

end CriteriaSql.Toml
