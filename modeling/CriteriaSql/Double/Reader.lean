import CriteriaSql.Double.Basic
import CriteriaSql.Text.Numeral

/-!
The double nearest to a fraction or to a decimal, ties going to the even mantissa, and doubles from
decimal text.
-/

namespace CriteriaSql.Double

open Text

/-- The integer nearest to `num / den`, the even one of two. -/
def roundToEven (num den : Nat) : Nat :=
  let whole := num / den
  let excess := 2 * (num % den)
  if excess < den then whole
  else if den < excess then whole + 1
  else whole + whole % 2

/-- Numerator and denominator of `num / den` counted in units of `2 ^ exponent`. -/
def inUnits (num den : Nat) (exponent : Int) : Nat × Nat :=
  if 0 ≤ exponent then (num, den * Nat.pow 2 exponent.toNat)
  else (num * Nat.pow 2 (-exponent).toNat, den)

/-- The exponent at which `num / den` fills 53 bits, or the least one. -/
def exponentFor (num den : Nat) : Int :=
  let guess : Int := (num.log2 : Int) - den.log2 - 53
  let (n, d) := inUnits num den guess
  max (-1074) (if n < d * mantissaBound then guess else guess + 1)

/-- A fraction that rounds beyond the largest finite double is infinite. -/
def nearest (negative : Bool) (num den : Nat) : Double :=
  if num = 0 then
    .zero negative
  else
    let exponent := exponentFor num den
    let (n, d) := inUnits num den exponent
    let rounded := roundToEven n d
    let (mantissa, exponent) :=
      if rounded = mantissaBound then (leastFull, exponent + 1) else (rounded, exponent)
    if normal : Normal mantissa exponent then
      .finite negative mantissa exponent normal
    else
      .infinite negative

/-- The double nearest to `significand * 10 ^ exponent`. -/
def ofDecimal (negative : Bool) (significand : Nat) (exponent : Int) : Double :=
  let digits : Int := (Nat.toDigits 10 significand).length
  -- Beyond these bounds the power of ten need not be formed.
  if significand = 0 ∨ digits + exponent < -330 then
    .zero negative
  else if 310 < digits + exponent then
    .infinite negative
  else if 0 ≤ exponent then
    nearest negative (significand * Nat.pow 10 exponent.toNat) 1
  else
    nearest negative significand (Nat.pow 10 (-exponent).toNat)

def ofInt (n : Int) : Double :=
  nearest (n < 0) n.natAbs 1

/-! Decimal text. -/

def readSign : List Char → Bool × List Char
  | '-' :: rest => (true, rest)
  | '+' :: rest => (false, rest)
  | cs => (false, cs)

def readPointed (cs : List Char) : List Char × List Char :=
  match cs with
  | '.' :: rest => spanDigits rest
  | cs => ([], cs)

/-- A number without a sign: digits on one side of the point at least. -/
def readMagnitude (negative : Bool) (cs : List Char) : Option Double := do
  let (whole, cs) := spanDigits cs
  let (fraction, cs) := readPointed cs
  let (exponent, cs) ← readExponent cs
  let digits := whole ++ fraction
  if digits.isEmpty || !cs.isEmpty then
    none
  else
    return ofDecimal negative (decimalValue digits) (exponent - fraction.length)

/-- A decimal numeral, or a word for what is not finite. A numeral beyond the largest double is
infinite. -/
def ofText? (text : String) : Option Double :=
  let (negative, cs) := readSign text.toList
  if cs = "inf".toList then some (.infinite negative)
  else if cs = "NaN".toList then some .nan
  else readMagnitude negative cs

end CriteriaSql.Double
