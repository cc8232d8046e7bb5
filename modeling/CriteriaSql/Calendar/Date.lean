/-! The proleptic Gregorian calendar, and the day numbers of its dates. -/

namespace CriteriaSql

structure Date where
  year : Int
  month : Nat
  day : Nat
  deriving DecidableEq

namespace Date

def isLeap (year : Int) : Bool :=
  year % 4 == 0 && (year % 100 != 0 || year % 400 == 0)

def daysInMonth (year : Int) (month : Nat) : Nat :=
  if month = 2 then
    if isLeap year then 29 else 28
  else if month = 4 ∨ month = 6 ∨ month = 9 ∨ month = 11 then 30
  else 31

def Valid (date : Date) : Prop :=
  1 ≤ date.month ∧ date.month ≤ 12 ∧
    1 ≤ date.day ∧ date.day ≤ daysInMonth date.year date.month

instance (date : Date) : Decidable date.Valid :=
  inferInstanceAs (Decidable (_ ∧ _))

/-! Day numbers. Years begin with March here, so that a leap day ends its year. -/

/-- The day number of 1970-01-01, counted from the first of March of the year 0. -/
def epoch : Int := 719468

/-- Days before the first of March of a year, counted from that of the year 0. -/
def daysBeforeYear (year : Int) : Int :=
  365 * year + year / 4 - year / 100 + year / 400

/-- Days before a month in its year, March being month 0. -/
def daysBeforeMonth (month : Nat) : Nat :=
  (153 * month + 2) / 5

/-- The year that a day falls into: cycles of 400 years, then centuries, leap cycles and years, the
last of each a day longer or shorter than the others. -/
def yearOfDay (day : Int) : Int :=
  let inCycle := day % 146097
  let century := min (inCycle / 36524) 3
  let inCentury := inCycle - 36524 * century
  let leapCycle := inCentury / 1461
  let inLeapCycle := inCentury - 1461 * leapCycle
  400 * (day / 146097) + 100 * century + 4 * leapCycle + min (inLeapCycle / 365) 3

def ofYearAndDay (year : Int) (dayOfYear : Nat) : Date :=
  let month := (5 * dayOfYear + 2) / 153
  let day := dayOfYear - daysBeforeMonth month + 1
  if month < 10 then ⟨year, month + 3, day⟩ else ⟨year + 1, month - 9, day⟩

/-- Days since 1970-01-01. -/
def toDays (date : Date) : Int :=
  let year := if date.month ≤ 2 then date.year - 1 else date.year
  daysBeforeYear year + daysBeforeMonth ((date.month + 9) % 12) + date.day - 1 - epoch

def ofDays (days : Int) : Date :=
  let year := yearOfDay (days + epoch)
  ofYearAndDay year (days + epoch - daysBeforeYear year).toNat

end Date

end CriteriaSql
