import CriteriaSql.Double.Printer
import CriteriaSql.Double.Reader
import Mathlib.Algebra.Ring.Nat

/-!
Doubles from 2 ^ 63 up to 2 ^ 64. From one to the next they are 2048 apart, so integers are rounded
to multiples of 2048, and what is written of them ends in zeros.
-/

namespace CriteriaSql.Double

/-! Rounding. -/

/-- Integers within half a gap of a multiple are rounded to it, and at just half a gap if it is an
even one. -/
theorem roundToEven_eq {n mantissa : Nat} (hlow : 2048 * mantissa ≤ n + 1024)
    (hhigh : n ≤ 2048 * mantissa + 1024)
    (hodd : mantissa % 2 = 1 → 2048 * mantissa < n + 1024 ∧ n < 2048 * mantissa + 1024) :
    roundToEven n 2048 = mantissa := by
  simp only [roundToEven]
  split
  · omega
  · split <;> omega

section

variable {n : Nat} (hlow : 9223372036854775808 ≤ n) (hhigh : n < 18446744073709551616)

include hlow hhigh

theorem roundToEven_bounds :
    leastFull ≤ roundToEven n 2048 ∧ roundToEven n 2048 ≤ mantissaBound := by
  simp only [roundToEven, leastFull, mantissaBound]
  split
  · omega
  · split <;> omega

theorem exponentFor_eq : exponentFor n 1 = 11 := by
  have hlog : n.log2 = 63 := (Nat.log2_eq_iff (by omega)).2 ⟨hlow, hhigh⟩
  have hone : Nat.log2 1 = 0 := by decide
  unfold exponentFor
  rw [hlog, hone]
  show max (-1074) (if n < 1 * Nat.pow 2 10 * mantissaBound then (10 : Int) else 10 + 1) = 11
  have hfull : ¬ n < 1 * Nat.pow 2 10 * mantissaBound := by
    show ¬ n < 9223372036854775808
    omega
  rw [if_neg hfull]
  rfl

/-- Rounding fills the mantissa, or goes up to the next power of two. -/
theorem nearest_eq : ∃ (mantissa : Nat) (exponent : Int) (normal : Normal mantissa exponent),
    nearest false n 1 = .finite false mantissa exponent normal ∧
      (mantissa = roundToEven n 2048 ∧ exponent = 11 ∨
        roundToEven n 2048 = mantissaBound ∧ mantissa = leastFull ∧ exponent = 12) := by
  have hbounds := roundToEven_bounds hlow hhigh
  have hexponent := exponentFor_eq hlow hhigh
  have hunits : inUnits n 1 11 = (n, 2048) := rfl
  unfold nearest
  rw [if_neg (by omega : ¬ n = 0)]
  generalize exponentFor n 1 = exponent at hexponent ⊢
  subst hexponent
  simp only [hunits]
  by_cases hfull : roundToEven n 2048 = mantissaBound
  · have hnormal : Normal leastFull 12 := by decide
    refine ⟨leastFull, 12, hnormal, ?_, .inr ⟨hfull, rfl, rfl⟩⟩
    simp only [hfull, if_true]
    exact dif_pos hnormal
  · have hnormal : Normal (roundToEven n 2048) 11 :=
      ⟨by omega, .inl hbounds.1, by omega, by omega⟩
    refine ⟨roundToEven n 2048, 11, hnormal, ?_, .inl ⟨rfl, rfl⟩⟩
    simp only [hfull, if_false]
    exact dif_pos hnormal

end

/-- Integers that are rounded alike have the same double. -/
theorem nearest_congr {m n : Nat} (hm : 9223372036854775808 ≤ m ∧ m < 18446744073709551616)
    (hn : 9223372036854775808 ≤ n ∧ n < 18446744073709551616)
    (h : roundToEven m 2048 = roundToEven n 2048) : nearest false m 1 = nearest false n 1 := by
  obtain ⟨a, p, hp, hfirst, hcases⟩ := nearest_eq hm.1 hm.2
  obtain ⟨b, q, hq, hsecond, hcases'⟩ := nearest_eq hn.1 hn.2
  have hbounds := hp.1
  have hbounds' := hq.1
  have hmantissas : a = b ∧ p = q := by omega
  obtain ⟨rfl, rfl⟩ := hmantissas
  rw [hfirst, hsecond]

/-! Decimals. -/

theorem toDigits_mul_pow {n : Nat} (hn : 0 < n) (k : Nat) :
    Nat.toDigits 10 (n * 10 ^ k) = Nat.toDigits 10 n ++ List.replicate k '0' := by
  induction k with
  | zero => simp
  | succ k ih =>
      have hpos : 0 < n * 10 ^ k := Nat.mul_pos hn (Nat.pow_pos (by decide))
      have happend := Nat.toDigits_append_toDigits (b := 10) (d := 0) (by decide) hpos (by decide)
      have hnumber : n * 10 ^ (k + 1) = 10 * (n * 10 ^ k) + 0 := by
        rw [Nat.pow_succ, ← Nat.mul_assoc, Nat.mul_comm, Nat.add_zero]
      rw [hnumber, ← happend, ih, Nat.toDigits_zero, List.append_assoc, List.replicate_succ']

/-- As many digits as it takes. -/
theorem length_toDigits_spec {n : Nat} (hn : 0 < n) :
    10 ^ ((Nat.toDigits 10 n).length - 1) ≤ n ∧ n < 10 ^ (Nat.toDigits 10 n).length := by
  have hpos : 0 < (Nat.toDigits 10 n).length := Nat.length_toDigits_pos
  constructor
  · by_cases hone : (Nat.toDigits 10 n).length = 1
    · rw [hone]
      exact hn
    · have hshorter := Nat.length_toDigits_le_iff (n := n) (by decide : 1 < 10)
        (by omega : 0 < (Nat.toDigits 10 n).length - 1)
      omega
  · exact (Nat.length_toDigits_le_iff (by decide) hpos).1 (Nat.le_refl _)

theorem length_toDigits_eq {n k : Nat} (hlow : 10 ^ k ≤ n) (hhigh : n < 10 ^ (k + 1)) :
    (Nat.toDigits 10 n).length = k + 1 := by
  have hle := (Nat.length_toDigits_le_iff (by decide : 1 < 10) (Nat.succ_pos k)).2 hhigh
  by_cases hk : k = 0
  · have hpos : 0 < (Nat.toDigits 10 n).length := Nat.length_toDigits_pos
    omega
  · have hlt := mt (Nat.length_toDigits_le_iff (by decide : 1 < 10) (Nat.pos_of_ne_zero hk)).1
      (Nat.not_lt.2 hlow)
    omega

/-- Where the digits end before the point, zeros are filled in. -/
theorem placed_whole {layout : Layout} (hafter : layout.afterWhole = "") {n : Nat} (hn : 0 < n)
    (k : Nat) : layout.placed ⟨Nat.toDigits 10 n, (Nat.toDigits 10 n).length + k⟩ =
      Nat.toDigits 10 (n * 10 ^ k) := by
  have hpos : 0 < (Nat.toDigits 10 n).length := Nat.length_toDigits_pos
  unfold Layout.placed
  rw [toDigits_mul_pow hn, hafter]
  simp only
  rw [if_neg (by omega), if_pos (by omega)]
  simp
  omega

/-! The shortest decimal. -/

namespace Grid

variable {g : Grid} {closed : Bool} {tie : Tie}

/-- The reals around the value that round to it, with the ends if it is closed. -/
structure Reaches (g : Grid) (closed : Bool) (decimal : Nat) : Prop where
  low : g.value ≤ decimal + g.below
  high : decimal ≤ g.value + g.above
  inside : closed = false → g.value < decimal + g.below ∧ decimal < g.value + g.above

theorem within_iff {distance reach : Nat} :
    (distance < reach || (closed && distance == reach)) = true ↔
      distance ≤ reach ∧ (closed = false → distance < reach) := by
  cases closed with
  | false => simp; omega
  | true => simp; omega

variable (hstep : 0 < g.step)

include hstep

/-- The value is between one multiple of the step and the next. -/
theorem value_between :
    g.value / g.step * g.step ≤ g.value ∧ g.value < (g.value / g.step + 1) * g.step ∧
      (g.value / g.step + 1) * g.step = g.value / g.step * g.step + g.step := by
  have hdiv := Nat.div_add_mod g.value g.step
  have hmod := Nat.mod_lt g.value hstep
  rw [Nat.mul_comm] at hdiv
  have hnext : (g.value / g.step + 1) * g.step = g.value / g.step * g.step + g.step := by
    rw [Nat.add_mul, Nat.one_mul]
  omega

theorem reaches_down (habove : 0 < g.above)
    (h : (g.value - g.value / g.step * g.step < g.below ||
      (closed && g.value - g.value / g.step * g.step == g.below)) = true) :
    g.Reaches closed (g.value / g.step * g.step) := by
  have hbetween := value_between hstep
  have hwithin := within_iff.1 h
  refine ⟨by omega, by omega, fun hopen => ?_⟩
  have hstrict := hwithin.2 hopen
  omega

theorem reaches_up (hbelow : 0 < g.below)
    (h : ((g.value / g.step + 1) * g.step - g.value < g.above ||
      (closed && (g.value / g.step + 1) * g.step - g.value == g.above)) = true) :
    g.Reaches closed ((g.value / g.step + 1) * g.step) := by
  have hbetween := value_between hstep
  have hwithin := within_iff.1 h
  refine ⟨by omega, by omega, fun hopen => ?_⟩
  have hstrict := hwithin.2 hopen
  omega

/-- What is found is one of the two multiples around the value, and rounds to it. -/
theorem nearest?_spec (hbelow : 0 < g.below) (habove : 0 < g.above) {n : Nat}
    (h : g.nearest? closed tie = some n) :
    (n = g.value / g.step ∨ n = g.value / g.step + 1) ∧ g.Reaches closed (n * g.step) := by
  simp only [nearest?] at h
  split at h
  case h_1 => cases h
  case h_2 hdown _ =>
    cases h
    exact ⟨.inl rfl, reaches_down hstep habove hdown⟩
  case h_3 _ hup =>
    cases h
    exact ⟨.inr rfl, reaches_up hstep hbelow hup⟩
  case h_4 hdown hup =>
    -- Either may be taken, whichever is nearer or the tie goes to.
    have hn : n = g.value / g.step ∨ n = g.value / g.step + 1 := by
      split at h
      · cases h
        omega
      · split at h
        · cases h
          omega
        · split at h <;> cases h <;> omega
    refine ⟨hn, ?_⟩
    rcases hn with rfl | rfl
    · exact reaches_down hstep habove hdown
    · exact reaches_up hstep hbelow hup

/-- Where the steps are finer than the interval that rounds to the value, one of them is in it. -/
theorem nearest?_ne_none (hfine : g.step < g.below + g.above) :
    g.nearest? closed tie ≠ none := by
  have hbetween := value_between hstep
  simp only [nearest?]
  split
  case h_1 hdown hup =>
    simp only [Bool.or_eq_false_iff, decide_eq_false_iff_not] at hdown hup
    omega
  case h_2 => simp
  case h_3 => simp
  case h_4 =>
    split
    · simp
    · split
      · simp
      · split <;> simp

end Grid

theorem grid_eq (mantissa k : Nat) :
    grid mantissa 11 k =
      { value := 2048 * mantissa
        below := if mantissa = leastFull then 512 else 1024
        above := 1024
        step := 10 ^ k } := by
  have hunit : Nat.pow 2 ((11 : Int) - 2).toNat * Nat.pow 10 (-(k : Int)).toNat = 512 := by
    have hpower : (-(k : Int)).toNat = 0 := by omega
    rw [hpower]
    rfl
  have hstep : Nat.pow 10 (k : Int).toNat * Nat.pow 2 (2 - (11 : Int)).toNat = 10 ^ k := by
    rw [Int.toNat_natCast]
    exact Nat.mul_one _
  simp only [grid, hunit, hstep, Grid.mk.injEq, and_true]
  refine ⟨by omega, ?_⟩
  by_cases hleast : mantissa = leastFull
  · rw [if_pos hleast, if_pos ⟨hleast, by decide⟩]
  · rw [if_neg hleast, if_neg fun h => hleast h.1]

theorem grid_step (mantissa k : Nat) : (grid mantissa 11 k).step = 10 ^ k := by
  rw [grid_eq]

theorem grid_reach (mantissa k : Nat) :
    512 ≤ (grid mantissa 11 k).below ∧ (grid mantissa 11 k).above = 1024 := by
  rw [grid_eq]
  refine ⟨?_, rfl⟩
  show 512 ≤ if mantissa = leastFull then 512 else 1024
  split <;> decide

/-- An integer that may be written for the double of this mantissa: it is rounded to the double,
and its last three digits are zeros. -/
structure StandsFor (whole mantissa : Nat) : Prop where
  rounds : roundToEven whole 2048 = mantissa
  thousands : 1000 ∣ whole
  above : 9223372036854775808 < whole

/-- What rounds to a double up here is an integer that is rounded to its mantissa. -/
theorem standsFor_of_reaches {mantissa k whole : Nat} (hfull : leastFull ≤ mantissa)
    (h : (grid mantissa 11 k).Reaches (mantissa % 2 == 0) whole) (hthousands : 1000 ∣ whole) :
    StandsFor whole mantissa := by
  rw [grid_eq] at h
  have hhigh : whole ≤ 2048 * mantissa + 1024 := h.high
  have hbelow : 2048 * mantissa ≤ whole + (if mantissa = leastFull then 512 else 1024) := h.low
  have hinside : mantissa % 2 = 1 →
      2048 * mantissa < whole + (if mantissa = leastFull then 512 else 1024) ∧
        whole < 2048 * mantissa + 1024 := fun hodd => h.inside (by simp [hodd])
  unfold leastFull at *
  -- Below a power of two the doubles are closer to one another.
  split at hbelow
  · rw [if_pos ‹_›] at hinside
    refine ⟨roundToEven_eq (by omega) hhigh fun hodd => ?_, hthousands, by omega⟩
    have hstrict := hinside hodd
    omega
  · rw [if_neg ‹_›] at hinside
    exact ⟨roundToEven_eq hbelow hhigh hinside, hthousands, by omega⟩

section

variable {layout : Layout} (hafter : layout.afterWhole = "")

include hafter

/-- A multiple of a power of ten next to a number is laid out as its digits, be it that a carry adds
one to those of the number. -/
theorem placed_beside {value n c k : Nat} (hlow : 10 ^ (c + k) ≤ value)
    (hhigh : value < 10 ^ (c + 1 + k)) (hn : n = value / 10 ^ k ∨ n = value / 10 ^ k + 1) :
    layout.placed (if n = Nat.pow 10 (c + 1) then ⟨['1'], ((c + 1 + k : Nat) : Int) + 1⟩
        else ⟨Nat.toDigits 10 n, (c + 1 + k : Nat)⟩) = Nat.toDigits 10 (n * 10 ^ k) := by
  have hpos : 0 < 10 ^ k := Nat.pow_pos (by decide)
  have hleast : 10 ^ c ≤ value / 10 ^ k := by
    rw [Nat.le_div_iff_mul_le hpos, ← Nat.pow_add]
    exact hlow
  have hmost : value / 10 ^ k < 10 ^ (c + 1) := by
    rw [Nat.div_lt_iff_lt_mul hpos, ← Nat.pow_add]
    exact hhigh
  rw [show Nat.pow 10 (c + 1) = 10 ^ (c + 1) from rfl]
  by_cases hcarry : n = 10 ^ (c + 1)
  · have hplaced := placed_whole hafter (by decide : 0 < 1) (c + 1 + k)
    have hpoint : ((c + 1 + k : Nat) : Int) + 1 =
        ((Nat.toDigits 10 1).length : Int) + ((c + 1 + k : Nat) : Int) := Int.add_comm _ _
    rw [if_pos hcarry, hcarry, ← Nat.pow_add, hpoint]
    rw [Nat.one_mul] at hplaced
    exact hplaced
  · have hplaced := placed_whole hafter (by omega : 0 < n) k
    have hlength : (Nat.toDigits 10 n).length = c + 1 := length_toDigits_eq (by omega) (by omega)
    rw [hlength] at hplaced
    rw [if_neg hcarry, Int.natCast_add]
    exact hplaced

/-- The digits are found as soon as what is left of them is at most a thousand. -/
theorem placed_shortestFrom {tie : Tie} {mantissa point : Nat} (hfull : leastFull ≤ mantissa)
    (hlow : 10 ^ (point - 1) ≤ 2048 * mantissa) (hhigh : 2048 * mantissa < 10 ^ point)
    (rounds c : Nat) (hle : c + 4 ≤ point) (hreach : point < c + rounds + 4) :
    ∃ whole, StandsFor whole mantissa ∧
      layout.placed (shortestFrom tie mantissa 11 point rounds (c + 1)) =
        Nat.toDigits 10 whole := by
  induction rounds generalizing c with
  | zero => omega
  | succ rounds ih =>
      obtain ⟨k, rfl⟩ : ∃ k, point = c + 1 + k := ⟨point - (c + 1), by omega⟩
      have hpower : ((c + 1 + k : Nat) : Int) - ((c + 1 : Nat) : Int) = k := by omega
      have hreaches := grid_reach mantissa k
      have hstep : 0 < (grid mantissa 11 k).step := by
        rw [grid_step]
        exact Nat.pow_pos (by decide)
      rw [shortestFrom, hpower]
      cases hfound : (grid mantissa 11 k).nearest? (mantissa % 2 == 0) tie with
      | none =>
          -- Steps of a thousand are finer than the interval, so there is a round to come.
          have hcoarse : k ≠ 3 := by
            rintro rfl
            refine Grid.nearest?_ne_none hstep ?_ hfound
            rw [grid_step]
            omega
          exact ih (c + 1) (by omega) (by omega)
      | some n =>
          have hspec := Grid.nearest?_spec hstep (by omega) (by omega) hfound
          rw [grid_step] at hspec
          have hthousands : 1000 ∣ n * 10 ^ k :=
            Nat.dvd_mul_left_of_dvd (Nat.pow_dvd_pow 10 (by omega : 3 ≤ k)) n
          have hstands := standsFor_of_reaches hfull hspec.2 hthousands
          have hvalue : (grid mantissa 11 k).value = 2048 * mantissa := by rw [grid_eq]
          rw [hvalue] at hspec
          rw [show c + 1 + k - 1 = c + k by omega] at hlow
          exact ⟨n * 10 ^ k, hstands, placed_beside hafter hlow hhigh hspec.1⟩

/-- What is written of a double up here are the digits of an integer that is rounded to it, and the
last three of them are zeros. -/
theorem magnitude_whole (hinPlace : ∀ point, layout.inPlace point = true) {mantissa : Nat}
    (hfull : leastFull ≤ mantissa) (hbound : mantissa < mantissaBound) :
    ∃ whole, StandsFor whole mantissa ∧
      layout.magnitude mantissa 11 = Nat.toDigits 10 whole := by
  unfold leastFull mantissaBound at *
  have hpoint :
      decimalPoint (mantissa * Nat.pow 2 (11 : Int).toNat) (Nat.pow 2 (-(11 : Int)).toNat) =
        (Nat.toDigits 10 (2048 * mantissa)).length := by
    show decimalPoint (mantissa * 2048) 1 = _
    rw [decimalPoint, if_pos (by omega), Nat.div_one, Nat.mul_comm]
  -- There are 19 or 20 digits, and 17 rounds go as far as there are thousands.
  have hleast := Nat.length_toDigits_le_iff (n := 2048 * mantissa) (k := 18) (b := 10)
    (by decide) (by decide)
  have hmost := Nat.length_toDigits_le_iff (n := 2048 * mantissa) (k := 20) (b := 10)
    (by decide) (by decide)
  have hspec := length_toDigits_spec (by omega : 0 < 2048 * mantissa)
  unfold Layout.magnitude shortest
  rw [if_neg (by omega : ¬ mantissa = 0), hpoint]
  simp only [hinPlace, or_true, if_true]
  exact placed_shortestFrom hafter hfull hspec.1 hspec.2 17 0 (by omega) (by omega)

end

end CriteriaSql.Double
