import CriteriaSql.Literal
import CriteriaSql.Proofs.Calendar.Days
import CriteriaSql.Proofs.Sql.Numeral
import Mathlib.Data.Nat.Digits.Defs

/-!
Dates as text. What is written is read again as the same second, in the years that the form of RFC
3339 has.
-/

namespace CriteriaSql

open Text (decimalValue)

/-! Numbers of a fixed width. -/

namespace Instant

theorem padded_eq (width n : Nat) :
    padded width n =
      List.replicate (width - (Nat.toDigits 10 n).length) '0' ++ Nat.toDigits 10 n := rfl

section

variable {width n : Nat} (h : n < 10 ^ width)

theorem isDigit_of_mem_padded {c : Char} (hc : c ∈ padded width n) : c.isDigit := by
  rw [padded_eq, List.mem_append] at hc
  rcases hc with hc | hc
  · rw [List.eq_of_mem_replicate hc]
    decide
  · exact (Sql.Digits.toDigits n).isDigit c hc

theorem decimalValue_padded (width n : Nat) : decimalValue (padded width n) = n := by
  rw [decimalValue, padded_eq, Nat.ofDigitChars_append, Nat.ofDigitChars_replicate_zero,
    Nat.mul_zero, Nat.ofDigitChars_toDigits (by decide) (by decide)]

include h

theorem length_padded (hwidth : 0 < width) : (padded width n).length = width := by
  have hlength := Nat.toDigits_length 10 n width hwidth h
  rw [padded_eq, List.length_append, List.length_replicate]
  omega

theorem readNumber_padded (hwidth : 0 < width) (rest : List Char) :
    Rfc3339.readNumber width (padded width n ++ rest) = some (n, rest) := by
  have hlength := length_padded h hwidth
  have hdigits : (padded width n).all Char.isDigit :=
    List.all_eq_true.2 fun c hc => isDigit_of_mem_padded hc
  unfold Rfc3339.readNumber
  dsimp only
  rw [List.take_left' hlength, List.drop_left' hlength, hlength, hdigits, decimalValue_padded]
  simp

end

end Instant

theorem Date.Valid.two_digits {date : Date} (h : date.Valid) :
    date.month < 10 ^ 2 ∧ date.day < 10 ^ 2 := by
  have hmonth := h.2.1
  have hday := h.2.2.2
  have hlength := daysInMonth_le date.year date.month
  omega

namespace Rfc3339

open Instant (padded readNumber_padded)

theorem readMark_mem {allowed : List Char} {c : Char} (h : c ∈ allowed) (rest : List Char) :
    readMark allowed (c :: rest) = some rest :=
  if_pos h

theorem readDate_padded {date : Date} (hdate : date.Valid)
    (hyear : 0 ≤ date.year ∧ date.year ≤ 9999) (rest : List Char) :
    readDate (padded 4 date.year.toNat ++ '-' :: (padded 2 date.month ++ '-' ::
      (padded 2 date.day ++ rest))) = some (date, rest) := by
  obtain ⟨hmonth, hday⟩ := hdate.two_digits
  have hread : (⟨(date.year.toNat : Int), date.month, date.day⟩ : Date) = date := by
    rw [Int.toNat_of_nonneg hyear.1]
  unfold readDate
  simp only [readNumber_padded (show date.year.toNat < 10 ^ 4 by omega) (by decide),
    readNumber_padded hmonth (by decide), readNumber_padded hday (by decide),
    readMark_mem (List.mem_singleton_self '-'), Option.bind_eq_bind, Option.bind_some, hread,
    if_pos hdate]
  rfl

theorem readTime_padded {hour minute second : Nat} (hhour : hour ≤ 23) (hminute : minute ≤ 59)
    (hsecond : second ≤ 60) (rest : List Char) :
    readTime (padded 2 hour ++ ':' :: (padded 2 minute ++ ':' :: (padded 2 second ++ rest))) =
      some ((hour, minute, second), rest) := by
  unfold readTime
  simp only [readNumber_padded (show hour < 10 ^ 2 by omega) (by decide),
    readNumber_padded (show minute < 10 ^ 2 by omega) (by decide),
    readNumber_padded (show second < 10 ^ 2 by omega) (by decide),
    readMark_mem (List.mem_singleton_self ':'), Option.bind_eq_bind, Option.bind_some]
  simp [hhour, hminute, hsecond]

/-- In UTC and without a fraction. -/
theorem parse?_padded {date : Date} (hdate : date.Valid)
    (hyear : 0 ≤ date.year ∧ date.year ≤ 9999) {hour minute second : Nat} (hhour : hour ≤ 23)
    (hminute : minute ≤ 59) (hsecond : second ≤ 60) :
    parse? (String.ofList (padded 4 date.year.toNat ++ '-' :: (padded 2 date.month ++ '-' ::
      (padded 2 date.day ++ ' ' :: (padded 2 hour ++ ':' :: (padded 2 minute ++ ':' ::
        (padded 2 second ++ ['Z']))))))) =
      some (.ofClock date hour minute second Instant.noFraction 0) := by
  unfold parse?
  simp only [String.toList_ofList, readDate_padded hdate hyear,
    readMark_mem (show ' ' ∈ ['T', 't', ' '] by decide), readTime_padded hhour hminute hsecond,
    Option.bind_eq_bind, Option.bind_some]
  rfl

/-- A date-time begins with the digits of its year, and has no sign before them. -/
theorem parse?_of_head {text : String} {c : Char} {rest : List Char}
    (htext : text.toList = c :: rest) (h : ¬ c.isDigit) : parse? text = none := by
  have hyear : readNumber 4 (c :: rest) = none := by
    unfold readNumber
    dsimp only
    rw [List.take_succ_cons, List.all_cons, Bool.eq_false_iff.2 h, Bool.false_and, Bool.and_false,
      if_neg (by decide)]
  unfold parse? readDate
  rw [htext, hyear]
  rfl

end Rfc3339

namespace Instant

/-- The second in which an instant is, without its fraction. A leap second is a second of its
own. -/
def wholeSecond (instant : Instant) : Instant where
  seconds := instant.seconds
  nanos := if instant.isLeapSecond then nanosPerSecond else 0
  nanos_lt := by split <;> decide
  endsMinute := by
    intro hleap
    split at hleap
    · rename_i h
      exact instant.endsMinute (of_decide_eq_true h)
    · exact absurd hleap (by decide)

/-- How many leap seconds there are since the second that is counted. -/
def leapSeconds (instant : Instant) : Nat :=
  if instant.isLeapSecond then 1 else 0

/-- The number of the second in its minute, as it is written. -/
def clockSecond (instant : Instant) : Nat :=
  instant.secondOfDay % 60 + instant.leapSeconds

theorem secondOfDay_eq (instant : Instant) :
    (instant.secondOfDay : Int) = instant.seconds % 86400 := by
  unfold secondOfDay secondsPerDay
  omega

/-- A leap second comes only after the fifty-ninth of a minute. -/
theorem leapSeconds_cases (instant : Instant) :
    instant.leapSeconds = 0 ∨ instant.leapSeconds = 1 ∧ instant.secondOfDay % 60 = 59 := by
  unfold leapSeconds
  by_cases hleap : instant.isLeapSecond
  · have hday := instant.secondOfDay_eq
    have hlast := instant.endsMinute (of_decide_eq_true hleap)
    exact .inr ⟨if_pos hleap, by omega⟩
  · exact .inl (if_neg hleap)

theorem valid_date (instant : Instant) : instant.date.Valid :=
  Date.valid_ofDays _

/-- What is written of an instant tells its second. -/
theorem ofClock_date (instant : Instant) :
    ofClock instant.date (instant.secondOfDay / 3600) (instant.secondOfDay / 60 % 60)
      instant.clockSecond noFraction 0 = instant.wholeSecond := by
  have hday := instant.secondOfDay_eq
  have hdays : instant.date.toDays = instant.seconds / 86400 := Date.toDays_ofDays _
  apply Instant.ext
  · have hleap := instant.leapSeconds_cases
    show instant.date.toDays * secondsPerDay + (instant.secondOfDay / 3600 : Nat) * 3600 +
      (instant.secondOfDay / 60 % 60 : Nat) * 60 + (min instant.clockSecond 59 : Nat) - 0 * 60 =
        instant.seconds
    unfold secondsPerDay clockSecond
    omega
  · show (if instant.clockSecond = 60 then 0 + nanosPerSecond else 0) =
      if instant.isLeapSecond then nanosPerSecond else 0
    unfold clockSecond leapSeconds
    by_cases hleap : instant.isLeapSecond
    · have hlast := instant.endsMinute (of_decide_eq_true hleap)
      rw [if_pos hleap, if_pos hleap, if_pos (by omega), Nat.zero_add]
    · rw [if_neg hleap, if_neg hleap, if_neg (by omega)]

theorem isLeapSecond_wholeSecond (instant : Instant) :
    instant.wholeSecond.isLeapSecond = instant.isLeapSecond := by
  have hnanos : instant.wholeSecond.nanos =
      if instant.isLeapSecond then nanosPerSecond else 0 := rfl
  rw [isLeapSecond, hnanos]
  cases instant.isLeapSecond with
  | true => rfl
  | false => rfl

/-- The text is that of the whole second. -/
theorem sqlText_wholeSecond (instant : Instant) :
    instant.wholeSecond.sqlText = instant.sqlText := by
  unfold sqlText sqlChars
  rw [isLeapSecond_wholeSecond]
  rfl

/-- What is written behind the year. -/
def charsAfterYear (instant : Instant) : List Char :=
  '-' :: (padded 2 instant.date.month ++ '-' :: (padded 2 instant.date.day ++ ' ' ::
    (padded 2 (instant.secondOfDay / 3600) ++ ':' :: (padded 2 (instant.secondOfDay / 60 % 60) ++
      ':' :: padded 2 instant.clockSecond))))

theorem sqlChars_eq (instant : Instant) :
    instant.sqlChars = yearText instant.date.year ++ instant.charsAfterYear := by
  unfold sqlChars charsAfterYear clockSecond leapSeconds
  dsimp only
  simp only [List.append_assoc, List.cons_append]

theorem toList_sqlText_append (instant : Instant) (after : String) :
    (instant.sqlText ++ after).toList =
      yearText instant.date.year ++ (instant.charsAfterYear ++ after.toList) := by
  rw [sqlText, String.toList_append, String.toList_ofList, sqlChars_eq, List.append_assoc]

theorem clockSecond_le (instant : Instant) : instant.clockSecond ≤ 60 := by
  unfold clockSecond leapSeconds
  split <;> omega

theorem parse?_sqlText {instant : Instant}
    (hyear : 0 ≤ instant.date.year ∧ instant.date.year ≤ 9999) :
    Rfc3339.parse? (instant.sqlText ++ "Z") = some instant.wholeSecond := by
  have hday := instant.secondOfDay_eq
  have hread := Rfc3339.parse?_padded instant.valid_date hyear
    (show instant.secondOfDay / 3600 ≤ 23 by omega)
    (show instant.secondOfDay / 60 % 60 ≤ 59 by omega) instant.clockSecond_le
  have hwritten : yearText instant.date.year = padded 4 instant.date.year.toNat := if_pos hyear
  have htext := instant.toList_sqlText_append "Z"
  rw [hwritten, charsAfterYear] at htext
  simp only [List.append_assoc, List.cons_append] at htext
  rw [← instant.ofClock_date, ← hread, ← String.ofList_toList (s := instant.sqlText ++ "Z"), htext]
  rfl

theorem parse?_sqlText_of_year {instant : Instant}
    (hyear : ¬ (0 ≤ instant.date.year ∧ instant.date.year ≤ 9999)) :
    Rfc3339.parse? (instant.sqlText ++ "Z") = none := by
  have htext := instant.toList_sqlText_append "Z"
  unfold yearText at htext
  rw [if_neg hyear, List.cons_append] at htext
  refine Rfc3339.parse?_of_head htext ?_
  split <;> decide

end Instant

/-- A date as it is written in JSON. -/
def Json.date (written : String) : Json :=
  .object [("$date", .string written)]

theorem Literal.ofJson_date_eq_iff {written : String} {instant : Instant} :
    Literal.ofJson (.date written) = .dateTime instant ↔
      Rfc3339.parse? written = some instant := by
  have hwrapper : Literal.ofJson (.date written) =
      ((Rfc3339.parse? written).map dateTime).getD (.json (.date written)) := by
    unfold Json.date Literal.ofJson ofWrapper?
    rfl
  rw [hwrapper]
  cases Rfc3339.parse? written with
  | none => simp
  | some other => simp

/-- A date is written as the second in which it is, in UTC, and what is written is a date again
where its year has four digits and no sign. It is then the same second, a leap second if that is
one, and is written as before. So dates are written alike that are the same second. -/
theorem date_text_denotes {written : String} {instant : Instant}
    (_ : Literal.ofJson (.date written) = .dateTime instant) :
    ((∃ again, Literal.ofJson (.date (instant.sqlText ++ "Z")) = .dateTime again) ↔
      0 ≤ instant.date.year ∧ instant.date.year ≤ 9999) ∧
    (0 ≤ instant.date.year → instant.date.year ≤ 9999 →
      Literal.ofJson (.date (instant.sqlText ++ "Z")) = .dateTime instant.wholeSecond ∧
        instant.wholeSecond.sqlText = instant.sqlText) ∧
    ∀ other otherInstant, Literal.ofJson (.date other) = .dateTime otherInstant →
      otherInstant.wholeSecond = instant.wholeSecond → otherInstant.sqlText = instant.sqlText := by
  have hagain : 0 ≤ instant.date.year → instant.date.year ≤ 9999 →
      Literal.ofJson (.date (instant.sqlText ++ "Z")) = .dateTime instant.wholeSecond := by
    intro hfirst hlast
    exact Literal.ofJson_date_eq_iff.2 (Instant.parse?_sqlText ⟨hfirst, hlast⟩)
  refine ⟨⟨?_, fun hyear => ⟨_, hagain hyear.1 hyear.2⟩⟩, ?_, ?_⟩
  · rintro ⟨again, hread⟩
    by_contra hyear
    rw [Literal.ofJson_date_eq_iff, Instant.parse?_sqlText_of_year hyear] at hread
    cases hread
  · intro hfirst hlast
    exact ⟨hagain hfirst hlast, instant.sqlText_wholeSecond⟩
  · intro other otherInstant _ hsame
    rw [← otherInstant.sqlText_wholeSecond, hsame, instant.sqlText_wholeSecond]

/-- A leap second that ends a year, written in the next one by a clock half an hour ahead. -/
theorem date_text_denotes_leap :
    Literal.ofJson (.date "2017-01-01 00:29:60.75+00:30") =
        .dateTime ⟨1483228799, 1750000000, by decide, by decide⟩ ∧
      Instant.sqlText ⟨1483228799, 1750000000, by decide, by decide⟩ = "2016-12-31 23:59:60" ∧
      Literal.ofJson (.date "2016-12-31 23:59:60Z") =
        .dateTime ⟨1483228799, 1000000000, by decide, by decide⟩ := by
  have hread : Literal.ofJson (.date "2017-01-01 00:29:60.75+00:30") =
      .dateTime ⟨1483228799, 1750000000, by decide, by decide⟩ :=
    Literal.ofJson_date_eq_iff.2 (by decide)
  have htext : Instant.sqlText ⟨1483228799, 1750000000, by decide, by decide⟩ =
      "2016-12-31 23:59:60" := by decide
  have hagain := ((date_text_denotes hread).2.1 (by decide) (by decide)).1
  rw [htext] at hagain
  exact ⟨hread, htext, hagain⟩

end CriteriaSql
