/-!
IEEE doubles as a sign, an integral mantissa and a power of two, so that reading and writing them
is a matter of integers.
-/

namespace CriteriaSql

/-- The least mantissa that has all 53 bits in use. -/
def Double.leastFull : Nat := 4503599627370496

/-- What every mantissa stays below. -/
def Double.mantissaBound : Nat := 9007199254740992

/-- The one form in which a double keeps `mantissa * 2 ^ exponent`: all 53 bits in use, unless the
exponent is the least there is. -/
def Double.Normal (mantissa : Nat) (exponent : Int) : Prop :=
  mantissa < mantissaBound ∧ (leastFull ≤ mantissa ∨ exponent = -1074) ∧
    -1074 ≤ exponent ∧ exponent ≤ 971

instance (mantissa : Nat) (exponent : Int) : Decidable (Double.Normal mantissa exponent) :=
  inferInstanceAs (Decidable (_ ∧ _))

inductive Double where
  | nan
  | infinite (negative : Bool)
  | finite (negative : Bool) (mantissa : Nat) (exponent : Int)
      (normal : Double.Normal mantissa exponent)
  deriving DecidableEq

namespace Double

def zero (negative : Bool) : Double :=
  .finite negative 0 (-1074) (by decide)

def one : Double :=
  .finite false leastFull (-52) (by decide)

def isFinite : Double → Bool
  | .finite .. => true
  | _ => false

/-- Numeric equality: the two zeros are one number, and not-a-number equals nothing. -/
def same : Double → Double → Bool
  | .infinite a, .infinite b => a == b
  | .finite a m p _, .finite b n q _ => (m == 0 && n == 0) || (a == b && m == n && p == q)
  | _, _ => false

end Double

end CriteriaSql
