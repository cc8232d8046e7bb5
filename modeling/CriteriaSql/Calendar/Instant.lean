import CriteriaSql.Calendar.Date

/-! Points in time, in UTC. -/

namespace CriteriaSql

def Instant.nanosPerSecond : Nat := 1000000000

/-- Seconds since 1970 began and nanoseconds within the second. In a leap second, which ends its
minute, the seconds stay at the fifty-ninth and the nanoseconds go on from a thousand million. -/
@[ext] structure Instant where
  seconds : Int
  nanos : Nat
  nanos_lt : nanos < 2 * Instant.nanosPerSecond
  endsMinute : Instant.nanosPerSecond ≤ nanos → seconds % 60 = 59
  deriving DecidableEq

namespace Instant

/-- A whole second has no fraction. -/
def noFraction : Fin nanosPerSecond :=
  ⟨0, by decide⟩

def secondsPerDay : Int := 86400

/-- A time of day on a date, at an offset of so many minutes east of UTC. Second 60 is a leap
second. -/
def ofClock (date : Date) (hour minute second : Nat) (nanos : Fin nanosPerSecond) (offset : Int) :
    Instant where
  seconds := date.toDays * secondsPerDay + hour * 3600 + minute * 60 + min second 59 - offset * 60
  nanos := if second = 60 then nanos + nanosPerSecond else nanos
  nanos_lt := by
    have hnanos := nanos.isLt
    split <;> omega
  -- Days and offsets are whole minutes.
  endsMinute := by
    intro hleap
    have hnanos := nanos.isLt
    unfold secondsPerDay
    split at hleap <;> omega

def isLeapSecond (instant : Instant) : Bool :=
  nanosPerSecond ≤ instant.nanos

def date (instant : Instant) : Date :=
  .ofDays (instant.seconds / secondsPerDay)

def secondOfDay (instant : Instant) : Nat :=
  (instant.seconds % secondsPerDay).toNat

def leastYear : Int := -262143

def greatestYear : Int := 262142

def inYearRange (year : Int) : Bool :=
  leastYear ≤ year && year ≤ greatestYear

/-- An instant by its numbers. Only the last second of a minute can be a leap second, and the years
are bounded. -/
def ofUnix? (seconds : Int) (nanos : Nat) : Option Instant :=
  if h : nanos < 2 * nanosPerSecond ∧ (nanosPerSecond ≤ nanos → seconds % 60 = 59) then
    let instant : Instant := ⟨seconds, nanos, h.1, h.2⟩
    if inYearRange instant.date.year then some instant else none
  else
    none

/-- A date and a time of day in UTC, without leap seconds. -/
def ofDateTime? (date : Date) (hour minute second : Nat) : Option Instant :=
  if date.Valid ∧ inYearRange date.year ∧ hour < 24 ∧ minute < 60 ∧ second < 60 then
    some (ofClock date hour minute second noFraction 0)
  else
    none

/-- Decimal digits, with zeros in front up to a width. -/
def padded (width n : Nat) : List Char :=
  (Nat.toDigits 10 n).leftpad width '0'

/-- Four digits for the years 0 to 9999; any other year has a sign and four digits at least. -/
def yearText (year : Int) : List Char :=
  if 0 ≤ year ∧ year ≤ 9999 then padded 4 year.toNat
  else (if year < 0 then '-' else '+') :: padded 4 year.natAbs

/-- The form `YYYY-MM-DD HH:MM:SS`. A leap second is second 60. -/
def sqlChars (instant : Instant) : List Char :=
  let date := instant.date
  let second := instant.secondOfDay
  yearText date.year ++ '-' :: padded 2 date.month ++ '-' :: padded 2 date.day ++
    ' ' :: padded 2 (second / 3600) ++ ':' :: padded 2 (second / 60 % 60) ++
    ':' :: padded 2 (second % 60 + if instant.isLeapSecond then 1 else 0)

def sqlText (instant : Instant) : String :=
  String.ofList instant.sqlChars

end Instant

end CriteriaSql
