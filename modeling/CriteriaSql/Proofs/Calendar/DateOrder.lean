import CriteriaSql.Proofs.Calendar.DateText
import CriteriaSql.Statement.Where
import Mathlib.Data.String.Basic

/-!
The texts of dates come in the order of the dates. Every field has a fixed width, and the greater
fields are written first.
-/

namespace CriteriaSql

open Text (decimalValue)

/-! The order of texts. -/

namespace Text

/-- Texts of one length decide, and what follows them counts only where they are the same. -/
theorem append_lt_append_iff {as bs : List Char} (h : as.length = bs.length) (s t : List Char) :
    as ++ s < bs ++ t ↔ as < bs ∨ as = bs ∧ s < t := by
  induction as generalizing bs with
  | nil =>
      obtain rfl := List.length_eq_zero_iff.1 h.symm
      simp
  | cons a rest ih =>
      cases bs with
      | nil => cases h
      | cons b others =>
          have htail := ih (Nat.succ.inj h)
          rw [List.cons_append, List.cons_append, List.cons_lt_cons_iff, htail,
            List.cons_lt_cons_iff, List.cons.injEq]
          simp only [and_or_left, or_assoc, and_assoc]

/-- A smaller first digit makes a smaller number, whatever the others are. -/
theorem ofDigitChars_lt {a b : Char} {as bs : List Char} (ha : ∀ c ∈ a :: as, c.isDigit)
    (hb : ∀ c ∈ b :: bs, c.isDigit) (h : as.length = bs.length) (hlt : a < b) (init : Nat) :
    Nat.ofDigitChars 10 (a :: as) init < Nat.ofDigitChars 10 (b :: bs) init := by
  have hfirst := toNat_bounds (ha a List.mem_cons_self)
  have hsecond := toNat_bounds (hb b List.mem_cons_self)
  have hlt' : a.toNat < b.toNat := hlt
  have hzero : '0'.toNat = 48 := rfl
  have hbelow := (ofDigitChars_bounds (fun c hc => ha c (List.mem_cons_of_mem a hc))
    (10 * init + (a.toNat - '0'.toNat))).2
  have habove := (ofDigitChars_bounds (fun c hc => hb c (List.mem_cons_of_mem b hc))
    (10 * init + (b.toNat - '0'.toNat))).1
  rw [Nat.ofDigitChars_cons, Nat.ofDigitChars_cons]
  refine Nat.lt_of_lt_of_le hbelow (Nat.le_trans ?_ habove)
  rw [h]
  exact Nat.mul_le_mul_left _ (by omega)

theorem ofDigitChars_lt_iff {as bs : List Char} (ha : ∀ c ∈ as, c.isDigit)
    (hb : ∀ c ∈ bs, c.isDigit) (h : as.length = bs.length) (init : Nat) :
    Nat.ofDigitChars 10 as init < Nat.ofDigitChars 10 bs init ↔ as < bs := by
  induction as generalizing bs init with
  | nil =>
      obtain rfl := List.length_eq_zero_iff.1 h.symm
      simp
  | cons a rest ih =>
      cases bs with
      | nil => cases h
      | cons b others =>
          have hlength := Nat.succ.inj h
          rw [List.cons_lt_cons_iff]
          -- The first digits decide if they differ, in either direction.
          rcases lt_trichotomy a b with hlt | rfl | hgt
          · exact ⟨fun _ => .inl hlt, fun _ => ofDigitChars_lt ha hb hlength hlt init⟩
          · have hrest := ih (fun c hc => ha c (List.mem_cons_of_mem a hc))
              (fun c hc => hb c (List.mem_cons_of_mem a hc)) hlength
              (10 * init + (a.toNat - '0'.toNat))
            rw [Nat.ofDigitChars_cons, Nat.ofDigitChars_cons, hrest]
            simp
          · have hreverse := ofDigitChars_lt hb ha hlength.symm hgt init
            constructor
            · intro hlt
              omega
            · rintro (hlt | ⟨rfl, -⟩)
              · exact absurd hlt (lt_asymm hgt)
              · exact absurd hgt (lt_irrefl a)

end Text

namespace Instant

/-- A number of a fixed width decides before all that follows it. -/
theorem padded_append_lt_iff {width n m : Nat} (hwidth : 0 < width) (hn : n < 10 ^ width)
    (hm : m < 10 ^ width) (s t : List Char) :
    padded width n ++ s < padded width m ++ t ↔ n < m ∨ n = m ∧ s < t := by
  have hlength : (padded width n).length = (padded width m).length := by
    rw [length_padded hn hwidth, length_padded hm hwidth]
  have hlt := Text.ofDigitChars_lt_iff (fun c hc => isDigit_of_mem_padded hc)
    (fun c hc => isDigit_of_mem_padded hc) hlength 0
  have hvalue := decimalValue_padded width n
  have hvalue' := decimalValue_padded width m
  unfold decimalValue at hvalue hvalue'
  rw [hvalue, hvalue'] at hlt
  have heq : padded width n = padded width m ↔ n = m := by
    constructor
    · intro h
      rw [← hvalue, h, hvalue']
    · rintro rfl
      rfl
  rw [Text.append_lt_append_iff hlength, ← hlt, heq]

theorem clock_bounds (instant : Instant) : instant.secondOfDay / 3600 < 10 ^ 2 ∧
    instant.secondOfDay / 60 % 60 < 10 ^ 2 ∧ instant.clockSecond < 10 ^ 2 := by
  have hday := instant.secondOfDay_eq
  have hsecond := instant.clockSecond_le
  omega

/-- Earlier on the day. A leap second is later than the second before it. -/
def ClockBefore (a b : Instant) : Prop :=
  a.secondOfDay < b.secondOfDay ∨
    a.secondOfDay = b.secondOfDay ∧ a.leapSeconds < b.leapSeconds

section

variable {a b : Instant}

theorem clockBefore_iff :
    a.ClockBefore b ↔ a.secondOfDay / 3600 < b.secondOfDay / 3600 ∨
      a.secondOfDay / 3600 = b.secondOfDay / 3600 ∧
        (a.secondOfDay / 60 % 60 < b.secondOfDay / 60 % 60 ∨
          a.secondOfDay / 60 % 60 = b.secondOfDay / 60 % 60 ∧ a.clockSecond < b.clockSecond) := by
  have hparts : a.secondOfDay = 3600 * (a.secondOfDay / 3600) + 60 * (a.secondOfDay / 60 % 60) +
    a.secondOfDay % 60 := by omega
  have hparts' : b.secondOfDay = 3600 * (b.secondOfDay / 3600) + 60 * (b.secondOfDay / 60 % 60) +
    b.secondOfDay % 60 := by omega
  have hminute : a.secondOfDay / 60 % 60 < 60 ∧ b.secondOfDay / 60 % 60 < 60 := by omega
  have hsecond : a.secondOfDay % 60 < 60 ∧ b.secondOfDay % 60 < 60 := by omega
  have hleap := a.leapSeconds_cases
  have hleap' := b.leapSeconds_cases
  unfold ClockBefore clockSecond
  generalize a.secondOfDay / 3600 = h, a.secondOfDay / 60 % 60 = m, a.secondOfDay % 60 = s at *
  generalize b.secondOfDay / 3600 = h', b.secondOfDay / 60 % 60 = m', b.secondOfDay % 60 = s' at *
  -- The first field in which they differ decides on both sides.
  rcases lt_trichotomy h h' with hlt | rfl | hgt
  · omega
  · rcases lt_trichotomy m m' with hlt | rfl | hgt
    · omega
    · omega
    · omega
  · omega

theorem charsAfterYear_lt_iff :
    a.charsAfterYear < b.charsAfterYear ↔
      a.date.month < b.date.month ∨ a.date.month = b.date.month ∧
        (a.date.day < b.date.day ∨ a.date.day = b.date.day ∧ a.ClockBefore b) := by
  obtain ⟨hmonth, hday⟩ := a.valid_date.two_digits
  obtain ⟨hmonth', hday'⟩ := b.valid_date.two_digits
  obtain ⟨hhour, hminute, hsecond⟩ := a.clock_bounds
  obtain ⟨hhour', hminute', hsecond'⟩ := b.clock_bounds
  have hlast := padded_append_lt_iff (by decide) hsecond hsecond' [] []
  simp only [List.append_nil, List.lt_irrefl, and_false, or_false] at hlast
  rw [clockBefore_iff]
  unfold charsAfterYear
  simp only [List.cons_lt_cons_iff, lt_irrefl, false_or, true_and, hlast,
    padded_append_lt_iff (show 0 < 2 by decide) hmonth hmonth',
    padded_append_lt_iff (show 0 < 2 by decide) hday hday',
    padded_append_lt_iff (show 0 < 2 by decide) hhour hhour',
    padded_append_lt_iff (show 0 < 2 by decide) hminute hminute']

/-! Earlier instants. -/

/-- The second counts before what has passed of it, a leap second being the end of one. -/
instance : LT Instant where
  lt a b := a.seconds < b.seconds ∨ a.seconds = b.seconds ∧ a.nanos < b.nanos

instance : DecidableLT Instant := fun a b =>
  inferInstanceAs (Decidable (a.seconds < b.seconds ∨ a.seconds = b.seconds ∧ a.nanos < b.nanos))

instance : Ord Instant where
  compare a b := compareOfLessAndEq a b

theorem wholeSecond_lt_iff : a.wholeSecond < b.wholeSecond ↔
    a.seconds < b.seconds ∨ a.seconds = b.seconds ∧ a.leapSeconds < b.leapSeconds := by
  show a.seconds < b.seconds ∨ a.seconds = b.seconds ∧ _ < _ ↔ _
  unfold wholeSecond leapSeconds nanosPerSecond
  dsimp only
  split <;> split <;> simp

theorem date_before_or_clockBefore_iff :
    a.date.Before b.date ∨ a.date = b.date ∧ a.ClockBefore b ↔ a.wholeSecond < b.wholeSecond := by
  have hdays : a.date.toDays = a.seconds / 86400 := Date.toDays_ofDays _
  have hdays' : b.date.toDays = b.seconds / 86400 := Date.toDays_ofDays _
  have hday := a.secondOfDay_eq
  have hday' := b.secondOfDay_eq
  have hdate : a.date = b.date ↔ a.date.toDays = b.date.toDays :=
    ⟨congrArg Date.toDays, Date.eq_of_toDays_eq a.valid_date b.valid_date⟩
  rw [wholeSecond_lt_iff, ← Date.toDays_lt_iff a.valid_date b.valid_date, hdate, hdays, hdays']
  unfold ClockBefore
  omega

section

variable (hyear : 0 ≤ a.date.year ∧ a.date.year ≤ 9999)
  (hyear' : 0 ≤ b.date.year ∧ b.date.year ≤ 9999)

include hyear hyear'

theorem sqlText_lt_iff : a.sqlText < b.sqlText ↔ a.wholeSecond < b.wholeSecond := by
  have hwritten : yearText a.date.year = padded 4 a.date.year.toNat := if_pos hyear
  have hwritten' : yearText b.date.year = padded 4 b.date.year.toNat := if_pos hyear'
  rw [← date_before_or_clockBefore_iff, String.lt_iff_toList_lt, sqlText, sqlText,
    String.toList_ofList, String.toList_ofList, sqlChars_eq, sqlChars_eq, hwritten, hwritten',
    padded_append_lt_iff (by decide) (by omega) (by omega), charsAfterYear_lt_iff]
  have hlt : a.date.year.toNat < b.date.year.toNat ↔ a.date.year < b.date.year := by omega
  have heq : a.date.year.toNat = b.date.year.toNat ↔ a.date.year = b.date.year := by omega
  rw [hlt, heq]
  unfold Date.Before
  generalize a.date = first, b.date = second
  obtain ⟨year, month, day⟩ := first
  obtain ⟨year', month', day'⟩ := second
  simp only [Date.mk.injEq, and_or_left, or_assoc, and_assoc]

theorem sqlText_eq_iff : a.sqlText = b.sqlText ↔ a.wholeSecond = b.wholeSecond := by
  constructor
  · intro h
    have hread := parse?_sqlText hyear
    rw [h, parse?_sqlText hyear'] at hread
    exact (Option.some.inj hread).symm
  · intro h
    rw [← a.sqlText_wholeSecond, h, b.sqlText_wholeSecond]

theorem compare_sqlText : compare a.sqlText b.sqlText = compare a.wholeSecond b.wholeSecond := by
  have hstrings : ∀ s t : String, compare s t = compareOfLessAndEq s t := fun _ _ => rfl
  have hinstants : ∀ i j : Instant, compare i j = compareOfLessAndEq i j := fun _ _ => rfl
  rw [hstrings, hinstants]
  unfold compareOfLessAndEq
  rw [if_congr (sqlText_lt_iff hyear hyear') rfl
    (if_congr (sqlText_eq_iff hyear hyear') rfl rfl)]

end

end

end Instant

/-! What needs no quoting. -/

namespace Quoted

/-- A character that stands for itself between quotes. -/
def IsPlain (c : Char) : Prop :=
  c ≠ '\'' ∧ c ≠ '"'

instance (c : Char) : Decidable (IsPlain c) :=
  inferInstanceAs (Decidable (_ ∧ _))

theorem encode_of_isPlain {cs : List Char} (h : ∀ c ∈ cs, IsPlain c) :
    encode cs = '\'' :: cs ++ ['\''] := by
  have hencoded : cs.flatMap encodeChar = cs.flatMap fun c => [c] := by
    refine List.flatMap_congr fun c hc => ?_
    unfold encodeChar
    rw [if_neg (h c hc).1, if_neg (h c hc).2]
  rw [encode, hencoded, List.flatMap_singleton']

end Quoted

namespace Instant

theorem isPlain_of_mem_padded {width n : Nat} : ∀ c ∈ padded width n, Quoted.IsPlain c := by
  intro c hc
  have hdigit := isDigit_of_mem_padded hc
  constructor
  · rintro rfl
    revert hdigit
    decide
  · rintro rfl
    revert hdigit
    decide

theorem isPlain_of_mem_sqlChars (instant : Instant) :
    ∀ c ∈ instant.sqlChars, Quoted.IsPlain c := by
  have hyear : ∀ c ∈ yearText instant.date.year, Quoted.IsPlain c := by
    unfold yearText
    split
    · exact isPlain_of_mem_padded
    · refine List.forall_mem_cons.2 ⟨?_, isPlain_of_mem_padded⟩
      split <;> decide
  rw [sqlChars_eq, charsAfterYear]
  simp only [List.forall_mem_append, List.forall_mem_cons]
  exact ⟨hyear, by decide, isPlain_of_mem_padded, by decide, isPlain_of_mem_padded, by decide,
    isPlain_of_mem_padded, by decide, isPlain_of_mem_padded, by decide, isPlain_of_mem_padded⟩

end Instant

/-- Between its quotes a date is written as it is. -/
theorem Literal.prepared_dateTime (instant : Instant) :
    (dateTime instant).prepared = "'" ++ instant.sqlText ++ "'" := by
  show quote instant.sqlText = _
  rw [← String.toList_inj, quote, Instant.sqlText, String.toList_ofList, String.toList_ofList,
    Quoted.encode_of_isPlain instant.isPlain_of_mem_sqlChars]
  simp

/-- How the comparators of order are written, and in which order each of them holds. -/
def Comparator.order? : Comparator → Option (String × (Ordering → Bool))
  | lessThan => some ("<", Ordering.isLT)
  | lessThanOrEqual => some ("<=", Ordering.isLE)
  | greaterThan => some (">", Ordering.isGT)
  | greaterThanOrEqual => some (">=", Ordering.isGE)
  | not | like | contains | startsWith | endsWith => none

theorem Comparator.sql_of_order? {comparator : Comparator} {sign : String}
    {holds : Ordering → Bool} (h : comparator.order? = some (sign, holds)) (column : String)
    (value : Literal) : comparator.sql column value = column ++ sign ++ value.prepared := by
  cases comparator with
  | lessThan | lessThanOrEqual | greaterThan | greaterThanOrEqual => cases h; rfl
  | not | like | contains | startsWith | endsWith => cases h

/-- The texts of dates compare as the seconds in which the dates are, a leap second being between
the fifty-ninth and the next minute. A column keeps a date as this text and is compared with this
text, so that the comparators of order select by time. -/
theorem date_text_sorts {written other : String} {a b : Instant}
    (_ : Literal.ofJson (.date written) = .dateTime a)
    (_ : Literal.ofJson (.date other) = .dateTime b)
    (hyear : 0 ≤ a.date.year ∧ a.date.year ≤ 9999) (hyear' : 0 ≤ b.date.year ∧ b.date.year ≤ 9999) :
    compare a.sqlText b.sqlText = compare a.wholeSecond b.wholeSecond ∧
    (Literal.dateTime a).prepared = "'" ++ a.sqlText ++ "'" ∧
    ∀ (comparator : Comparator) (sign : String) (holds : Ordering → Bool),
      comparator.order? = some (sign, holds) →
      (∀ column,
        comparator.sql column (.dateTime b) = column ++ sign ++ ("'" ++ b.sqlText ++ "'")) ∧
      holds (compare a.sqlText b.sqlText) = holds (compare a.wholeSecond b.wholeSecond) := by
  have hcompare := Instant.compare_sqlText hyear hyear'
  refine ⟨hcompare, Literal.prepared_dateTime a, ?_⟩
  intro comparator sign holds horder
  refine ⟨fun column => ?_, congrArg holds hcompare⟩
  rw [Comparator.sql_of_order? horder, Literal.prepared_dateTime]

/-- A leap second is earlier than the next year, which is written here by a clock that has not come
to it. -/
theorem date_text_sorts_leap :
    Literal.ofJson (.date "2016-12-31T23:59:60Z") =
        .dateTime ⟨1483228799, 1000000000, by decide, by decide⟩ ∧
      Literal.ofJson (.date "2016-12-31t19:00:00.5-05:00") =
        .dateTime ⟨1483228800, 500000000, by decide, by decide⟩ ∧
      compare (Instant.sqlText ⟨1483228799, 1000000000, by decide, by decide⟩)
        (Instant.sqlText ⟨1483228800, 500000000, by decide, by decide⟩) = .lt := by
  have hleap : Literal.ofJson (.date "2016-12-31T23:59:60Z") =
      .dateTime ⟨1483228799, 1000000000, by decide, by decide⟩ :=
    Literal.ofJson_date_eq_iff.2 (by decide)
  have hnext : Literal.ofJson (.date "2016-12-31t19:00:00.5-05:00") =
      .dateTime ⟨1483228800, 500000000, by decide, by decide⟩ :=
    Literal.ofJson_date_eq_iff.2 (by decide)
  refine ⟨hleap, hnext, ?_⟩
  rw [(date_text_sorts hleap hnext (by decide) (by decide)).1]
  decide

end CriteriaSql
