import CriteriaSql.Double.Basic

/-!
The text of a double: the fewest decimal digits that read back as it, and among those the nearest to
it, laid out as a format decides.
-/

namespace CriteriaSql.Double

/-- Where an exact half between two decimals goes. -/
inductive Tie where
  | up
  | toEven

/-- The number `digits * 10 ^ (point - n)`, where `n` is how many digits there are: the decimal
point stands after the first `point` of them. -/
structure Decimal where
  digits : List Char
  point : Int

/-- The least `k` with `num / den < 10 ^ k`. -/
def decimalPoint (num den : Nat) : Int :=
  if den ≤ num then
    (Nat.toDigits 10 (num / den)).length
  else
    let k := (Nat.toDigits 10 (den / num)).length
    if den ≤ num * Nat.pow 10 (k - 1) then 2 - k else 1 - k

/-- The reals that round to a double, and the decimals in question, in one common unit: the double
is `value`, the reals reach `below` under it and `above` over it, and the decimals of this many
digits are the multiples of `step`. -/
structure Grid where
  value : Nat
  below : Nat
  above : Nat
  step : Nat

def grid (mantissa : Nat) (exponent : Int) (power : Int) : Grid :=
  -- The unit is a quarter of the gap above; below a power of two the gap is half as wide.
  let narrow := mantissa = leastFull ∧ exponent ≠ -1074
  let unit := Nat.pow 2 (exponent - 2).toNat * Nat.pow 10 (-power).toNat
  { value := 4 * mantissa * unit
    below := (if narrow then 1 else 2) * unit
    above := 2 * unit
    step := Nat.pow 10 power.toNat * Nat.pow 2 (2 - exponent).toNat }

/-- The nearest multiple of the step that still rounds to the double. The ends of the interval
round to it iff its mantissa is even. -/
def Grid.nearest? (g : Grid) (closed : Bool) (tie : Tie) : Option Nat :=
  let low := g.value / g.step
  let down := g.value - low * g.step
  let up := (low + 1) * g.step - g.value
  let within (distance reach : Nat) : Bool :=
    distance < reach || (closed && distance == reach)
  match within down g.below, within up g.above with
  | false, false => none
  | true, false => some low
  | false, true => some (low + 1)
  | true, true =>
      if down < up then some low
      else if up < down then some (low + 1)
      else match tie with
        | .up => some (low + 1)
        | .toEven => some (low + low % 2)

/-- Tries decimals of `count` digits, then of one more, for `rounds` rounds. -/
def shortestFrom (tie : Tie) (mantissa : Nat) (exponent point : Int) : Nat → Nat → Decimal
  | 0, _ => ⟨['0'], 1⟩
  | rounds + 1, count =>
      match (grid mantissa exponent (point - count)).nearest? (mantissa % 2 == 0) tie with
      | none => shortestFrom tie mantissa exponent point rounds (count + 1)
      | some n => if n = Nat.pow 10 count then ⟨['1'], point + 1⟩ else ⟨Nat.toDigits 10 n, point⟩

/-- Seventeen digits tell any two doubles apart, so seventeen rounds always end with a decimal. -/
def shortest (tie : Tie) (mantissa : Nat) (exponent : Int) : Decimal :=
  if mantissa = 0 then
    ⟨['0'], 1⟩
  else
    let point := decimalPoint (mantissa * Nat.pow 2 exponent.toNat) (Nat.pow 2 (-exponent).toNat)
    shortestFrom tie mantissa exponent point 17 1

/-! The text, given the decisions that a format makes about it. -/

/-- What a format decides: where ties go, which positions of the decimal point are written out in
place, what follows a whole number, and the words for what is not finite. -/
structure Layout where
  tie : Tie
  inPlace : Int → Bool
  afterWhole : String
  nan : String
  infinity : String

namespace Layout

/-- All the digits, zeros filled in on the side where they do not reach the decimal point. -/
def placed (layout : Layout) (decimal : Decimal) : List Char :=
  let ⟨digits, point⟩ := decimal
  if point ≤ 0 then
    '0' :: '.' :: List.replicate (-point).toNat '0' ++ digits
  else if digits.length ≤ point.toNat then
    digits ++ List.replicate (point.toNat - digits.length) '0' ++ layout.afterWhole.toList
  else
    digits.take point.toNat ++ '.' :: digits.drop point.toNat

/-- One digit before the point, and an exponent that always bears its sign. -/
def scientific (decimal : Decimal) : List Char :=
  let exponent := decimal.point - 1
  let fraction := match decimal.digits.drop 1 with
    | [] => []
    | rest => '.' :: rest
  decimal.digits.take 1 ++ fraction ++ 'e' :: (if exponent < 0 then '-' else '+') ::
    Nat.toDigits 10 exponent.natAbs

def magnitude (layout : Layout) (mantissa : Nat) (exponent : Int) : List Char :=
  let decimal := shortest layout.tie mantissa exponent
  if mantissa = 0 ∨ layout.inPlace decimal.point then layout.placed decimal
  else scientific decimal

def text (layout : Layout) : Double → String
  | .nan => layout.nan
  | .infinite negative => if negative then "-" ++ layout.infinity else layout.infinity
  | .finite negative mantissa exponent _ =>
      let digits := layout.magnitude mantissa exponent
      String.ofList (if negative then '-' :: digits else digits)

end Layout

end CriteriaSql.Double
