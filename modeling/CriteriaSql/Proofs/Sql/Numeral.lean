import CriteriaSql.Literal
import CriteriaSql.Text.Numeral

/-! Numerals of the dialect, and that every number is written as one. -/

namespace CriteriaSql.Sql

/-- The digits after a minus sign, if there is one. -/
def unsigned : List Char → List Char
  | '-' :: rest => rest
  | cs => cs

/-- Digits, with more digits behind a point if there is a point. -/
def isMagnitude (cs : List Char) : Bool :=
  match Text.spanDigits cs with
  | (whole, []) => !whole.isEmpty
  | (whole, mark :: fraction) =>
      !whole.isEmpty && mark == '.' && !fraction.isEmpty && fraction.all Char.isDigit

def isNumeral (cs : List Char) : Bool :=
  isMagnitude (unsigned cs)

structure Digits (cs : List Char) : Prop where
  ne_nil : cs ≠ []
  isDigit : ∀ c ∈ cs, c.isDigit

namespace Digits

theorem toDigits (n : Nat) : Digits (Nat.toDigits 10 n) where
  ne_nil := Nat.toDigits_ne_nil
  isDigit _ hc := Nat.isDigit_of_mem_toDigits (by decide) (by decide) hc

theorem singleton {c : Char} (h : c.isDigit) : Digits [c] where
  ne_nil := List.cons_ne_nil _ _
  isDigit d hd := by rwa [List.mem_singleton.1 hd]

theorem append {cs ds : List Char} (hc : Digits cs) (hd : ∀ d ∈ ds, d.isDigit) :
    Digits (cs ++ ds) where
  ne_nil := by
    rw [Ne, List.append_eq_nil_iff]
    exact fun h => hc.ne_nil h.1
  isDigit d h := by
    rcases List.mem_append.1 h with h | h
    · exact hc.isDigit d h
    · exact hd d h

theorem spanDigits_append {cs : List Char} (hc : Digits cs) {rest : List Char}
    (hrest : ∀ c ∈ rest.head?, ¬ c.isDigit) : Text.spanDigits (cs ++ rest) = (cs, rest) := by
  unfold Text.spanDigits
  rw [List.takeWhile_append_of_pos hc.isDigit, List.dropWhile_append_of_pos hc.isDigit]
  cases rest with
  | nil => simp
  | cons c others =>
      have h : ¬ c.isDigit := hrest c rfl
      rw [List.takeWhile_cons_of_neg h, List.dropWhile_cons_of_neg h, List.append_nil]

theorem unsigned_append {cs : List Char} (hc : Digits cs) (rest : List Char) :
    unsigned (cs ++ rest) = cs ++ rest := by
  cases cs with
  | nil => exact absurd rfl hc.ne_nil
  | cons c others =>
      have h : c ≠ '-' := by
        rintro rfl
        exact absurd (hc.isDigit '-' List.mem_cons_self) (by decide)
      rw [List.cons_append, unsigned]
      rintro tail heq
      exact h (List.cons.inj heq).1

theorem isMagnitude {cs : List Char} (hc : Digits cs) : isMagnitude cs := by
  have h : Text.spanDigits (cs ++ []) = (cs, []) := hc.spanDigits_append (by simp)
  rw [List.append_nil] at h
  unfold Sql.isMagnitude
  rw [h]
  simpa using hc.ne_nil

theorem isMagnitude_point {whole fraction : List Char} (hw : Digits whole)
    (hf : Digits fraction) : Sql.isMagnitude (whole ++ '.' :: fraction) := by
  have h : Text.spanDigits (whole ++ '.' :: fraction) = (whole, '.' :: fraction) :=
    hw.spanDigits_append (by simp)
  unfold Sql.isMagnitude
  rw [h]
  simp only [Bool.and_eq_true, Bool.not_eq_true', List.isEmpty_eq_false_iff, beq_self_eq_true,
    List.all_eq_true]
  exact ⟨⟨⟨hw.ne_nil, trivial⟩, hf.ne_nil⟩, hf.isDigit⟩

end Digits

theorem isNumeral_of_digits {cs : List Char} (hc : Digits cs) : isNumeral cs := by
  have h := hc.unsigned_append []
  rw [List.append_nil] at h
  rw [isNumeral, h]
  exact hc.isMagnitude

/-- What stands in a numeral: digits, a minus sign, a point. -/
theorem mem_isNumeral {cs : List Char} (h : isNumeral cs) {c : Char} (hc : c ∈ cs) :
    c.isDigit ∨ c = '-' ∨ c = '.' := by
  have hmagnitude : ∀ {ds : List Char}, isMagnitude ds → c ∈ ds → c.isDigit ∨ c = '.' := by
    intro ds hds hmem
    rw [← List.takeWhile_append_dropWhile (p := Char.isDigit) (l := ds), List.mem_append] at hmem
    rcases hmem with hmem | hmem
    · exact .inl (List.all_eq_true.1 List.all_takeWhile c hmem)
    · unfold isMagnitude Text.spanDigits at hds
      split at hds
      · rename_i heq
        rw [(Prod.mk.inj heq).2] at hmem
        exact absurd hmem List.not_mem_nil
      · rename_i mark fraction heq
        simp only [Bool.and_eq_true, beq_iff_eq, List.all_eq_true] at hds
        rw [(Prod.mk.inj heq).2, List.mem_cons] at hmem
        rcases hmem with rfl | hmem
        · exact .inr hds.1.1.2
        · exact .inl (hds.2 c hmem)
  unfold isNumeral at h
  cases cs with
  | nil => exact absurd hc List.not_mem_nil
  | cons d rest =>
      -- Only the first character may be a minus sign, and what follows it is a magnitude.
      by_cases hd : d = '-'
      · subst hd
        rcases List.mem_cons.1 hc with rfl | hmem
        · exact .inr (.inl rfl)
        · exact (hmagnitude h hmem).imp id .inr
      · have hu : unsigned (d :: rest) = d :: rest := by
          rw [unsigned]
          rintro tail heq
          exact hd (List.cons.inj heq).1
        rw [hu] at h
        exact (hmagnitude h hc).imp id .inr

theorem quote_not_mem_of_isNumeral {cs : List Char} (h : isNumeral cs) : '\'' ∉ cs := fun hmem => by
  rcases mem_isNumeral h hmem with hd | hd | hd <;> revert hd <;> decide

/-! The numbers of a statement. -/

theorem isNumeral_natToString (n : Nat) : isNumeral (toString n).toList := by
  rw [Nat.toString_eq_repr, Nat.toList_repr]
  exact isNumeral_of_digits (.toDigits n)

theorem isNumeral_intToString (n : Int) : isNumeral (toString n).toList := by
  cases n with
  | ofNat n => exact isNumeral_natToString n
  | negSucc n =>
      show isNumeral ("-" ++ Nat.repr (n + 1)).toList
      rw [String.toList_append, Nat.toList_repr]
      exact (Digits.toDigits (n + 1)).isMagnitude

theorem decimalValue_toString (n : Nat) : Text.decimalValue (toString n).toList = n := by
  rw [Text.decimalValue, Nat.toString_eq_repr, Nat.toList_repr, Nat.ofDigitChars_ten_toDigits]

/-- Digits are never those of another number, and none of them is a minus sign. -/
theorem intToString_injective {a b : Int} (h : toString a = toString b) : a = b := by
  have hnat : ∀ {m n : Nat}, Nat.repr m = Nat.repr n → m = n := by
    intro m n heq
    rw [← decimalValue_toString m, Nat.toString_eq_repr, heq, ← Nat.toString_eq_repr,
      decimalValue_toString]
  have hsign : ∀ {m n : Nat}, Nat.repr m ≠ "-" ++ Nat.repr n := by
    intro m n heq
    have hmem : '-' ∈ Nat.toDigits 10 m := by
      rw [← Nat.toList_repr, heq, String.toList_append]
      exact List.mem_cons_self
    exact absurd ((Digits.toDigits m).isDigit '-' hmem) (by decide)
  cases a with
  | ofNat m =>
      cases b with
      | ofNat n => rw [hnat h]
      | negSucc n => exact absurd h hsign
  | negSucc m =>
      cases b with
      | ofNat n => exact absurd h.symm hsign
      | negSucc n =>
          have hdigits := (String.append_right_inj "-").1 h
          rw [Nat.succ.inj (hnat hdigits)]

theorem digits_shortestFrom (tie : Double.Tie) (mantissa : Nat) (exponent point : Int)
    (rounds count : Nat) :
    Digits (Double.shortestFrom tie mantissa exponent point rounds count).digits := by
  induction rounds generalizing count with
  | zero => exact .singleton (by decide)
  | succ rounds ih =>
      unfold Double.shortestFrom
      split
      · exact ih (count + 1)
      · split
        · exact .singleton (by decide)
        · exact .toDigits _

theorem digits_shortest (tie : Double.Tie) (mantissa : Nat) (exponent : Int) :
    Digits (Double.shortest tie mantissa exponent).digits := by
  unfold Double.shortest
  split
  · exact .singleton (by decide)
  · exact digits_shortestFrom ..

/-- Written in place and with nothing after a whole number, digits make a magnitude wherever the
point falls: before, behind or between them. -/
theorem isMagnitude_placed {digits : List Char} (h : Digits digits) (point : Int) :
    isMagnitude (sqlFloatLayout.placed ⟨digits, point⟩) ∧
      unsigned (sqlFloatLayout.placed ⟨digits, point⟩) = sqlFloatLayout.placed ⟨digits, point⟩ := by
  have hzeros : ∀ n : Nat, ∀ c ∈ List.replicate n '0', c.isDigit := by
    intro n c hc
    rw [List.eq_of_mem_replicate hc]
    decide
  simp only [Double.Layout.placed]
  -- The point stands before all digits, behind all of them, or between two.
  by_cases hpoint : point ≤ 0
  · have hzero : Digits ['0'] := .singleton (by decide)
    have hfraction : Digits (List.replicate (-point).toNat '0' ++ digits) := by
      refine ⟨fun hnil => h.ne_nil (List.append_eq_nil_iff.1 hnil).2, fun c hc => ?_⟩
      rcases List.mem_append.1 hc with hc | hc
      · exact hzeros _ c hc
      · exact h.isDigit c hc
    rw [if_pos hpoint]
    exact ⟨hzero.isMagnitude_point hfraction, hzero.unsigned_append _⟩
  · rw [if_neg hpoint]
    by_cases hlength : digits.length ≤ point.toNat
    · have hwhole := h.append (hzeros (point.toNat - digits.length))
      rw [if_pos hlength, show sqlFloatLayout.afterWhole.toList = [] from rfl]
      refine ⟨?_, hwhole.unsigned_append []⟩
      rw [List.append_nil]
      exact hwhole.isMagnitude
    · have hwhole : Digits (digits.take point.toNat) := by
        refine ⟨fun hnil => ?_, fun c hc => h.isDigit c (List.mem_of_mem_take hc)⟩
        rcases List.take_eq_nil_iff.1 hnil with hzero | hnil
        · omega
        · exact h.ne_nil hnil
      have hfraction : Digits (digits.drop point.toNat) := by
        refine ⟨fun hnil => ?_, fun c hc => h.isDigit c (List.mem_of_mem_drop hc)⟩
        have := List.drop_eq_nil_iff.1 hnil
        omega
      rw [if_neg hlength]
      exact ⟨hwhole.isMagnitude_point hfraction, hwhole.unsigned_append _⟩

theorem isNumeral_float {x : Double} (h : x.isFinite) :
    isNumeral (sqlFloatLayout.text x).toList := by
  cases x with
  | nan => exact absurd h (by decide)
  | infinite negative => exact absurd h (by simp [Double.isFinite])
  | finite negative mantissa exponent normal =>
      obtain ⟨hmagnitude, hunsigned⟩ :=
        isMagnitude_placed (digits_shortest .up mantissa exponent)
          (Double.shortest .up mantissa exponent).point
      have hplaced : sqlFloatLayout.magnitude mantissa exponent =
          sqlFloatLayout.placed (Double.shortest .up mantissa exponent) := by
        unfold Double.Layout.magnitude
        rw [if_pos (.inr rfl)]
        rfl
      unfold Double.Layout.text
      rw [String.toList_ofList, hplaced]
      cases negative with
      | false =>
          rw [if_neg (by decide), isNumeral, hunsigned]
          exact hmagnitude
      | true =>
          rw [if_pos rfl]
          exact hmagnitude

end CriteriaSql.Sql
