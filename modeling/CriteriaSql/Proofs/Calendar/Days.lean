import CriteriaSql.Calendar.Date
import Mathlib.Order.Monotone.Basic
import Mathlib.Tactic.IntervalCases

/-!
Day numbers count the dates of the calendar: every day has one date, every date one day, and they
come in the same order.
-/

namespace CriteriaSql.Date

/-- Days from the first of March of a year to that of the next one. The leap day comes at the end,
in the February of the next year. -/
theorem daysBeforeYear_succ (year : Int) :
    daysBeforeYear (year + 1) =
      daysBeforeYear year + if isLeap (year + 1) then 366 else 365 := by
  simp only [daysBeforeYear, isLeap, Bool.and_eq_true, Bool.or_eq_true, beq_iff_eq, bne_iff_ne]
  split <;> omega

/-- In cycles of years, centuries and leap cycles all but the last part have the same length. -/
theorem daysBeforeYear_parts {cycle century leapCycle year : Int}
    (hcentury : 0 ≤ century ∧ century ≤ 3) (hleap : 0 ≤ leapCycle ∧ leapCycle ≤ 24)
    (hyear : 0 ≤ year ∧ year ≤ 3) :
    daysBeforeYear (400 * cycle + 100 * century + 4 * leapCycle + year) =
      146097 * cycle + 36524 * century + 1461 * leapCycle + 365 * year := by
  unfold daysBeforeYear
  omega

/-- The year of a day has begun, and the next one has not. -/
theorem yearOfDay_spec (day : Int) :
    daysBeforeYear (yearOfDay day) ≤ day ∧ day < daysBeforeYear (yearOfDay day + 1) := by
  obtain ⟨century, hcentury⟩ : ∃ c, c = min (day % 146097 / 36524) 3 := ⟨_, rfl⟩
  obtain ⟨leapCycle, hleap⟩ : ∃ l, l = (day % 146097 - 36524 * century) / 1461 := ⟨_, rfl⟩
  obtain ⟨year, hyear⟩ :
      ∃ y, y = min ((day % 146097 - 36524 * century - 1461 * leapCycle) / 365) 3 := ⟨_, rfl⟩
  have hparts := @daysBeforeYear_parts (day / 146097) century leapCycle year
    (by omega) (by omega) (by omega)
  have heq : yearOfDay day = 400 * (day / 146097) + 100 * century + 4 * leapCycle + year := by
    rw [hyear, hleap, hcentury]
    rfl
  rw [← heq] at hparts
  rw [daysBeforeYear_succ, hparts]
  refine ⟨by omega, ?_⟩
  rw [heq]
  simp only [isLeap, Bool.and_eq_true, Bool.or_eq_true, beq_iff_eq, bne_iff_ne]
  -- Only the last year of a leap cycle can be longer, and is not in the last leap cycle of a
  -- century unless the century is the last of its cycle.
  by_cases hlast : year = 3
  · by_cases hcycle : leapCycle = 24
    · by_cases hend : century = 3
      · rw [if_pos (by omega)]
        omega
      · rw [if_neg (by omega)]
        omega
    · rw [if_pos (by omega)]
      omega
  · rw [if_neg (by omega)]
    omega

/-- In a year that begins in March the month of a day has begun, and the next one has not. -/
theorem daysBeforeMonth_spec (day : Nat) :
    daysBeforeMonth ((5 * day + 2) / 153) ≤ day ∧
      day < daysBeforeMonth ((5 * day + 2) / 153 + 1) := by
  unfold daysBeforeMonth
  omega

/-- The days of a year that begins in March, counted from 0. -/
theorem valid_ofYearAndDay {year : Int} {day : Nat}
    (h : day < 365 ∨ day = 365 ∧ isLeap (year + 1)) :
    (ofYearAndDay year day).Valid := by
  have hbefore := daysBeforeMonth_spec day
  unfold ofYearAndDay
  dsimp only
  obtain ⟨month, hmonth⟩ : ∃ m, m = (5 * day + 2) / 153 := ⟨_, rfl⟩
  rw [← hmonth] at hbefore ⊢
  unfold daysBeforeMonth at hbefore ⊢
  -- January and February, the last months of such a year, belong to the next one.
  by_cases hspring : month < 10
  · rw [if_pos hspring]
    unfold Valid daysInMonth
    dsimp only
    rw [if_neg (by omega)]
    split <;> omega
  · rw [if_neg hspring]
    unfold Valid daysInMonth
    dsimp only
    -- Only the length of February depends on the year.
    by_cases hlast : month = 11
    · rw [if_pos (by omega)]
      by_cases hleap : isLeap (year + 1) = true
      · rw [if_pos hleap]
        omega
      · have hday : day < 365 := h.resolve_right fun hlong => hleap hlong.2
        rw [if_neg hleap]
        omega
    · rw [if_neg (by omega)]
      split <;> omega

theorem toDays_ofYearAndDay (year : Int) {day : Nat} (h : day < 366) :
    (ofYearAndDay year day).toDays = daysBeforeYear year + day - epoch := by
  have hbefore := (daysBeforeMonth_spec day).1
  unfold ofYearAndDay
  dsimp only
  obtain ⟨month, hmonth⟩ : ∃ m, m = (5 * day + 2) / 153 := ⟨_, rfl⟩
  rw [← hmonth] at hbefore ⊢
  by_cases hspring : month < 10
  · rw [if_pos hspring]
    unfold toDays
    dsimp only
    rw [if_neg (by omega), show (month + 3 + 9) % 12 = month by omega]
    omega
  · rw [if_neg hspring]
    unfold toDays
    dsimp only
    rw [if_pos (by omega), show (month - 9 + 9) % 12 = month by omega, Int.add_sub_cancel]
    omega

/-- What is left of a day number after the years before it. -/
theorem exists_dayOfYear (days : Int) :
    ∃ (year : Int) (day : Nat), ofDays days = ofYearAndDay year day ∧
      days = daysBeforeYear year + day - epoch ∧ (day < 365 ∨ day = 365 ∧ isLeap (year + 1)) := by
  have hspec := yearOfDay_spec (days + epoch)
  refine ⟨yearOfDay (days + epoch), _, rfl, by omega, ?_⟩
  rw [daysBeforeYear_succ] at hspec
  by_cases hleap : isLeap (yearOfDay (days + epoch) + 1) = true
  · rw [if_pos hleap] at hspec
    simp only [hleap, and_true]
    omega
  · rw [if_neg hleap] at hspec
    exact .inl (by omega)

theorem valid_ofDays (days : Int) : (ofDays days).Valid := by
  obtain ⟨year, day, hdate, -, hday⟩ := exists_dayOfYear days
  rw [hdate]
  exact valid_ofYearAndDay hday

theorem toDays_ofDays (days : Int) : (ofDays days).toDays = days := by
  obtain ⟨year, day, hdate, hdays, hday⟩ := exists_dayOfYear days
  rw [hdate, toDays_ofYearAndDay year (by omega), hdays]

/-! Months one after another. -/

theorem daysInMonth_le (year : Int) (month : Nat) : daysInMonth year month ≤ 31 := by
  unfold daysInMonth
  split_ifs <;> omega

/-- Months since the year 0 began. -/
def monthIndex (date : Date) : Int :=
  12 * date.year + date.month - 1

/-- The day number with which a month begins. -/
def monthStart (index : Int) : Int :=
  toDays ⟨index / 12, (index % 12).toNat + 1, 1⟩

theorem monthIndex_parts {date : Date} (h : date.Valid) :
    date.monthIndex / 12 = date.year ∧ (date.monthIndex % 12).toNat + 1 = date.month := by
  have hlow := h.1
  have hhigh := h.2.1
  unfold monthIndex
  omega

theorem toDays_eq {date : Date} (h : date.Valid) :
    date.toDays = monthStart date.monthIndex + date.day - 1 := by
  have hparts := monthIndex_parts h
  unfold monthStart
  rw [hparts.1, hparts.2]
  unfold toDays
  dsimp only
  omega

/-- Months follow each other with the lengths that the calendar gives them. -/
theorem monthStart_succ (index : Int) :
    monthStart (index + 1) =
      monthStart index + daysInMonth (index / 12) ((index % 12).toNat + 1) := by
  obtain ⟨year, hyear⟩ : ∃ y, y = index / 12 := ⟨_, rfl⟩
  obtain ⟨month, hmonth⟩ : ∃ m, m = (index % 12).toNat := ⟨_, rfl⟩
  have hlength := daysBeforeYear_succ (year - 1)
  rw [Int.sub_add_cancel] at hlength
  unfold monthStart daysInMonth toDays daysBeforeMonth
  rw [← hyear, ← hmonth]
  dsimp only
  by_cases hlast : month = 11
  · rw [show (index + 1) / 12 = year + 1 by omega, show ((index + 1) % 12).toNat = 0 by omega,
      hlast]
    simp
    omega
  · rw [show (index + 1) / 12 = year by omega, show ((index + 1) % 12).toNat = month + 1 by omega]
    -- February is as long as the year before it has days left.
    have hfebruary : ((if isLeap year then 29 else 28 : Nat) : Int) =
        daysBeforeYear year - daysBeforeYear (year - 1) - 337 := by
      rw [hlength]
      split <;> omega
    have hlt : month < 11 := by omega
    clear hmonth hyear hlast hlength
    interval_cases month <;> simp [-Nat.cast_ite] <;> omega

theorem monthStart_mono {a b : Int} (h : a ≤ b) : monthStart a ≤ monthStart b := by
  refine monotone_int_of_le_succ (fun index => ?_) h
  rw [monthStart_succ]
  omega

/-! The order of dates. -/

/-- A date is in its month, and before the next one. -/
theorem toDays_bounds {date : Date} (h : date.Valid) :
    monthStart date.monthIndex ≤ date.toDays ∧
      date.toDays < monthStart (date.monthIndex + 1) := by
  have hparts := monthIndex_parts h
  have hfirst := h.2.2.1
  have hlast := h.2.2.2
  rw [monthStart_succ, hparts.1, hparts.2, toDays_eq h]
  omega

/-- Year before month before day. -/
def Before (a b : Date) : Prop :=
  a.year < b.year ∨ a.year = b.year ∧ (a.month < b.month ∨ a.month = b.month ∧ a.day < b.day)

theorem before_iff_monthIndex {a b : Date} (ha : a.Valid) (hb : b.Valid) :
    a.Before b ↔ a.monthIndex < b.monthIndex ∨ a.monthIndex = b.monthIndex ∧ a.day < b.day := by
  have hmonth := ha.1
  have hmonth' := ha.2.1
  have hother := hb.1
  have hother' := hb.2.1
  unfold Before monthIndex
  omega

theorem toDays_lt_iff {a b : Date} (ha : a.Valid) (hb : b.Valid) :
    a.toDays < b.toDays ↔ a.Before b := by
  have hfirst := toDays_bounds ha
  have hsecond := toDays_bounds hb
  have hdays := toDays_eq ha
  have hdays' := toDays_eq hb
  rw [before_iff_monthIndex ha hb]
  by_cases hsame : a.monthIndex = b.monthIndex
  · rw [hsame] at hdays
    omega
  · by_cases hlt : a.monthIndex < b.monthIndex
    · have hmono := @monthStart_mono (a.monthIndex + 1) b.monthIndex (by omega)
      omega
    · have hmono := @monthStart_mono (b.monthIndex + 1) a.monthIndex (by omega)
      omega

theorem eq_of_toDays_eq {a b : Date} (ha : a.Valid) (hb : b.Valid) (h : a.toDays = b.toDays) :
    a = b := by
  have hfirst := toDays_lt_iff ha hb
  have hsecond := toDays_lt_iff hb ha
  obtain ⟨year, month, day⟩ := a
  obtain ⟨year', month', day'⟩ := b
  unfold Before at hfirst hsecond
  dsimp only at hfirst hsecond
  rw [Date.mk.injEq]
  omega

end CriteriaSql.Date
