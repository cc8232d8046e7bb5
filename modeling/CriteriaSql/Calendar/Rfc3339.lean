import CriteriaSql.Calendar.Instant
import CriteriaSql.Text.Numeral

/-! Reading the date-time form of RFC 3339. -/

namespace CriteriaSql.Rfc3339

open Text (spanDigits decimalValue)

/-- A number of exactly so many digits. -/
def readNumber (count : Nat) (cs : List Char) : Option (Nat × List Char) :=
  let digits := cs.take count
  if digits.length == count && digits.all Char.isDigit then
    some (decimalValue digits, cs.drop count)
  else
    none

def readMark (allowed : List Char) : List Char → Option (List Char)
  | c :: rest => if c ∈ allowed then some rest else none
  | [] => none

def readDate (cs : List Char) : Option (Date × List Char) := do
  let (year, cs) ← readNumber 4 cs
  let (month, cs) ← readNumber 2 (← readMark ['-'] cs)
  let (day, cs) ← readNumber 2 (← readMark ['-'] cs)
  let date : Date := ⟨year, month, day⟩
  if date.Valid then return (date, cs) else none

/-- Hour, minute and second; the sixtieth second is allowed in any minute. -/
def readTime (cs : List Char) : Option ((Nat × Nat × Nat) × List Char) := do
  let (hour, cs) ← readNumber 2 cs
  let (minute, cs) ← readNumber 2 (← readMark [':'] cs)
  let (second, cs) ← readNumber 2 (← readMark [':'] cs)
  if hour ≤ 23 && minute ≤ 59 && second ≤ 60 then return ((hour, minute, second), cs) else none

/-- Nine digits make less than a second of nanoseconds. -/
theorem nineDigits_lt {digits : List Char} (h : ∀ c ∈ digits, c.isDigit) :
    decimalValue ((digits.take 9).rightpad 9 '0') < Instant.nanosPerSecond := by
  have hlength : ((digits.take 9).rightpad 9 '0').length = 9 := by
    rw [List.length_rightpad, List.length_take]
    omega
  have hall : ∀ c ∈ (digits.take 9).rightpad 9 '0', c.isDigit := by
    intro c hc
    rw [List.rightpad, List.mem_append] at hc
    rcases hc with hc | hc
    · exact h c (List.mem_of_mem_take hc)
    · rw [List.eq_of_mem_replicate hc]
      decide
  have hvalue := Text.decimalValue_lt hall
  rwa [hlength] at hvalue

/-- The nanoseconds of the digits of a fraction. Digits after the ninth do not count. -/
def nanosOf (digits : List Char) (h : ∀ c ∈ digits, c.isDigit) : Fin Instant.nanosPerSecond where
  val := decimalValue ((digits.take 9).rightpad 9 '0')
  isLt := nineDigits_lt h

/-- Nanoseconds from a decimal fraction, if there is one. -/
def readFraction : List Char → Option (Fin Instant.nanosPerSecond × List Char)
  | '.' :: cs =>
      if (spanDigits cs).1.isEmpty then none
      else some (nanosOf (spanDigits cs).1 Text.isDigit_of_mem_spanDigits, (spanDigits cs).2)
  | cs => some (Instant.noFraction, cs)

/-- Minutes east of UTC. Besides the hyphen the minus sign U+2212 is allowed. -/
def readOffset : List Char → Option (Int × List Char)
  | [] => none
  | c :: cs =>
      if c = 'Z' || c = 'z' then
        some (0, cs)
      else if c = '+' || c = '-' || c = '\u2212' then do
        let (hours, cs) ← readNumber 2 cs
        let (minutes, cs) ← readNumber 2 (← readMark [':'] cs)
        if hours ≤ 23 && minutes ≤ 59 then
          let size : Int := hours * 60 + minutes
          return (if c = '+' then size else -size, cs)
        else
          none
      else
        none

def parse? (text : String) : Option Instant := do
  let (date, cs) ← readDate text.toList
  let ((hour, minute, second), cs) ← readTime (← readMark ['T', 't', ' '] cs)
  let (nanos, cs) ← readFraction cs
  let (offset, cs) ← readOffset cs
  if cs.isEmpty then
    return .ofClock date hour minute second nanos offset
  else
    none

end CriteriaSql.Rfc3339
