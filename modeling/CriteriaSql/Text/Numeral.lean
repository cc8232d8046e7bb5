/-! Pieces of numerals. A reader gives what it read together with the rest. -/

namespace CriteriaSql.Text

/-- The value of a hexadecimal digit, of either case. -/
def hexValue? (c : Char) : Option Nat :=
  if c.isDigit then some (c.toNat - '0'.toNat)
  else if 'a' ≤ c && c ≤ 'f' then some (c.toNat - 'a'.toNat + 10)
  else if 'A' ≤ c && c ≤ 'F' then some (c.toNat - 'A'.toNat + 10)
  else none

/-- The digits at the front, possibly none. -/
def spanDigits (cs : List Char) : List Char × List Char :=
  (cs.takeWhile Char.isDigit, cs.dropWhile Char.isDigit)

/-- One or more digits. -/
def readDigits (cs : List Char) : Option (List Char × List Char) :=
  let (digits, rest) := spanDigits cs
  if digits.isEmpty then none else some (digits, rest)

def decimalValue (digits : List Char) : Nat :=
  Nat.ofDigitChars 10 digits 0

theorem isDigit_of_mem_spanDigits {cs : List Char} : ∀ c ∈ (spanDigits cs).1, c.isDigit :=
  List.all_eq_true.1 List.all_takeWhile

theorem toNat_bounds {c : Char} (h : c.isDigit) : 48 ≤ c.toNat ∧ c.toNat ≤ 57 :=
  Char.isDigit_iff_toNat.1 h

/-- Digits with something before them stay in its place. -/
theorem ofDigitChars_bounds {cs : List Char} (h : ∀ c ∈ cs, c.isDigit) (init : Nat) :
    Nat.pow 10 cs.length * init ≤ Nat.ofDigitChars 10 cs init ∧
      Nat.ofDigitChars 10 cs init < Nat.pow 10 cs.length * (init + 1) := by
  induction cs generalizing init with
  | nil =>
      rw [Nat.ofDigitChars_nil, List.length_nil, Nat.pow_eq, Nat.pow_zero]
      omega
  | cons c rest ih =>
      have hdigit := toNat_bounds (h c List.mem_cons_self)
      have hzero : '0'.toNat = 48 := rfl
      have hrest := ih (fun d hd => h d (List.mem_cons_of_mem c hd))
        (10 * init + (c.toNat - '0'.toNat))
      rw [Nat.ofDigitChars_cons, List.length_cons, Nat.pow_eq, Nat.pow_succ, ← Nat.pow_eq,
        Nat.mul_assoc, Nat.mul_assoc]
      constructor
      · refine Nat.le_trans ?_ hrest.1
        exact Nat.mul_le_mul_left _ (by omega)
      · refine Nat.lt_of_lt_of_le hrest.2 ?_
        exact Nat.mul_le_mul_left _ (by omega)

theorem decimalValue_lt {digits : List Char} (h : ∀ c ∈ digits, c.isDigit) :
    decimalValue digits < Nat.pow 10 digits.length := by
  have hbound := (ofDigitChars_bounds h 0).2
  rwa [Nat.zero_add, Nat.mul_one] at hbound

/-- A power of ten, if there is one; without it the power is zero. -/
def readExponent : List Char → Option (Int × List Char)
  | [] => some (0, [])
  | c :: cs =>
      if c = 'e' || c = 'E' then do
        let (negative, cs) := match cs with
          | '-' :: rest => (true, rest)
          | '+' :: rest => (false, rest)
          | rest => (false, rest)
        let (digits, rest) ← readDigits cs
        let size : Int := decimalValue digits
        return (if negative then -size else size, rest)
      else
        some (0, c :: cs)

end CriteriaSql.Text
