import CriteriaSql.Proofs.Double.Gaps
import CriteriaSql.Proofs.Sql.Rendering
import CriteriaSql.Statement.Basic

/-!
Integers from JSON, as they come to stand in a statement. Up to 2 ^ 63 they are written exactly.
From there on they are rounded to multiples of 2048, and integers that are rounded to the same one
can no more be told apart.
-/

namespace CriteriaSql

open Double (roundToEven)

/-- A JSON integer, as a value. -/
def Literal.ofInteger (n : Int) : Literal :=
  .ofJson (.number (.integer n))

theorem Literal.sql_ofInteger {n : Int} (h : n ≤ greatestInt64) :
    (ofInteger n).sql = toString n := by
  unfold ofInteger ofJson ofNumber
  simp only
  rw [if_pos h]
  rfl

theorem Literal.ofInteger_eq_float {n : Int} (h : greatestInt64 < n) :
    ofInteger n = .float (.nearest false n.toNat 1) := by
  have hpos : 0 < n := Int.lt_trans (by decide) h
  have hnearest : Double.ofInt n = .nearest false n.toNat 1 := by
    rw [Double.ofInt, decide_eq_false (by omega), show n.natAbs = n.toNat by omega]
  unfold ofInteger ofJson ofNumber
  simp only
  rw [if_neg (Int.not_le.2 h), hnearest]

/-- Integers above that bound need the highest of 64 bits. -/
theorem toNat_bounds {n : Int} (hlow : greatestInt64 < n) (hhigh : n ≤ greatestWord64) :
    9223372036854775808 ≤ n.toNat ∧ n.toNat < 18446744073709551616 := by
  unfold greatestInt64 greatestWord64 at *
  omega

/-- Above that bound the digits of an integer are written that is rounded alike and ends in three
zeros. -/
theorem Literal.sql_ofInteger_large {n : Int} (hlow : greatestInt64 < n)
    (hhigh : n ≤ greatestWord64) :
    ∃ whole : Nat, (ofInteger n).sql = toString whole ∧ greatestInt64 < whole ∧ 1000 ∣ whole ∧
      roundToEven whole 2048 = roundToEven n.toNat 2048 := by
  obtain ⟨hleast, hmost⟩ := toNat_bounds hlow hhigh
  have hbounds := Double.roundToEven_bounds hleast hmost
  obtain ⟨mantissa, exponent, normal, hnearest, hcases⟩ := Double.nearest_eq hleast hmost
  have hsql : (ofInteger n).sql =
      String.ofList (sqlFloatLayout.magnitude mantissa exponent) := by
    rw [ofInteger_eq_float hlow, hnearest]
    rfl
  rw [hsql]
  rcases hcases with ⟨hmantissa, rfl⟩ | ⟨hfull, rfl, rfl⟩
  · obtain ⟨whole, hstands, hdigits⟩ :=
      Double.magnitude_whole (rfl : sqlFloatLayout.afterWhole = "") (fun _ => rfl)
        (hmantissa ▸ hbounds.1) normal.1
    have habove := hstands.above
    refine ⟨whole, ?_, ?_, hstands.thousands, hstands.rounds.trans hmantissa⟩
    · rw [hdigits, Nat.toString_eq_ofList_toDigits]
    · unfold greatestInt64
      omega
  -- The greatest of them are rounded to 2 ^ 64.
  · refine ⟨18446744073709552000, ?_, by decide, by decide, ?_⟩
    · decide +kernel
    · rw [hfull]
      decide

/-- Two integers that are rounded alike. Only above that bound are they rounded at all. -/
def RoundAlike (m n : Int) : Prop :=
  greatestInt64 < m ∧ greatestInt64 < n ∧ roundToEven m.toNat 2048 = roundToEven n.toNat 2048

/-- Integers are written alike only if they are rounded alike. -/
theorem Literal.sql_ofInteger_eq_iff {m n : Int} (hm : m ≤ greatestWord64)
    (hn : n ≤ greatestWord64) :
    (ofInteger m).sql = (ofInteger n).sql ↔ m = n ∨ RoundAlike m n := by
  -- What is written of a rounded integer is itself above the bound, so it is no exact one.
  have hmixed : ∀ {a b : Int}, a ≤ greatestInt64 → greatestInt64 < b → b ≤ greatestWord64 →
      (ofInteger a).sql ≠ (ofInteger b).sql := by
    intro a b ha hb hb' h
    obtain ⟨whole, hwhole, habove, -, -⟩ := sql_ofInteger_large hb hb'
    have heq : a = whole :=
      Sql.intToString_injective ((sql_ofInteger ha).symm.trans (h.trans hwhole))
    omega
  constructor
  · intro h
    by_cases hmlarge : greatestInt64 < m <;> by_cases hnlarge : greatestInt64 < n
    · obtain ⟨whole, hwhole, -, -, hround⟩ := sql_ofInteger_large hmlarge hm
      obtain ⟨other, hother, -, -, hround'⟩ := sql_ofInteger_large hnlarge hn
      have heq : (whole : Int) = other :=
        Sql.intToString_injective (hwhole.symm.trans (h.trans hother))
      rw [Int.natCast_inj.1 heq] at hround
      exact .inr ⟨hmlarge, hnlarge, hround.symm.trans hround'⟩
    · exact absurd h.symm (hmixed (Int.not_lt.1 hnlarge) hmlarge hm)
    · exact absurd h (hmixed (Int.not_lt.1 hmlarge) hnlarge hn)
    · rw [sql_ofInteger (Int.not_lt.1 hmlarge), sql_ofInteger (Int.not_lt.1 hnlarge)] at h
      exact .inl (Sql.intToString_injective h)
  · rintro (rfl | ⟨hmlarge, hnlarge, hround⟩)
    · rfl
    · rw [ofInteger_eq_float hmlarge, ofInteger_eq_float hnlarge,
        Double.nearest_congr (toNat_bounds hmlarge hm) (toNat_bounds hnlarge hn) hround]

/-! Where integers come to stand. -/

/-- Around a number the same text is written whatever number it is. -/
def Frames (render : Literal → String) : Prop :=
  ∃ before after : List Char, ∀ value : Literal, value.content? = none → value.isNull = false →
    (render value).toList = before ++ value.sql.toList ++ after

theorem frames_wildcard (column before after : String) :
    Frames fun value => wildcardSql column before value after := by
  refine ⟨(column ++ " LIKE '" ++ before).toList, (after ++ "'").toList, fun value hbare _ => ?_⟩
  have hinside : Quoted.strip value.prepared.toList = value.sql.toList := by
    rw [Literal.strip_prepared, Literal.pattern, hbare, Option.getD_none,
      flatMap_doubled (Literal.not_mem_bare hbare).1]
  show (wildcardSql column before value after).toList = _
  rw [wildcardSql, hinside]
  simp

theorem Comparator.frames (comparator : Comparator) (column : String) :
    Frames fun value => comparator.sql column value := by
  have hcompared : ∀ operator : String, Frames fun value => column ++ operator ++ value.prepared :=
    fun operator => ⟨(column ++ operator).toList, [], fun value _ _ => by
      simp [Literal.prepared_eq_sql]⟩
  cases comparator with
  | lessThan => exact hcompared "<"
  | lessThanOrEqual => exact hcompared "<="
  | greaterThan => exact hcompared ">"
  | greaterThanOrEqual => exact hcompared ">="
  | not =>
      obtain ⟨before, after, hframe⟩ := hcompared "<>"
      refine ⟨before, after, fun value hbare hnull => ?_⟩
      rw [← hframe value hbare hnull]
      show (Comparator.not.sql column value).toList = _
      rw [sql, hnull]
      rfl
  | like => exact frames_wildcard column "" ""
  | contains => exact frames_wildcard column "%" "%"
  | startsWith => exact frames_wildcard column "" "%"
  | endsWith => exact frames_wildcard column "%" ""

/-- One value of a list, and the others before and after it. -/
theorem frames_separated (separator : String) (before after : List Literal) :
    Frames fun value =>
      Text.separated separator ((before ++ value :: after).map Literal.prepared) := by
  obtain ⟨first, last, hparts⟩ := Text.exists_separated_eq separator Literal.prepared before after
  refine ⟨first.toList, last.toList, fun value _ _ => ?_⟩
  show (Text.separated separator ((before ++ value :: after).map Literal.prepared)).toList = _
  rw [hparts, Literal.prepared_eq_sql, String.toList_append, String.toList_append]

/-- A column takes its value among the others, whose names and values stay. -/
theorem frames_insert (table column : String) (others : Values) :
    Frames fun value => Values.insertSql table (others.insert column value) := by
  obtain ⟨before, after, hentries⟩ := OrderedMap.exists_entries_insert_eq others column
  obtain ⟨first, last, hframe⟩ :=
    frames_separated ", " (before.map Prod.snd) (after.map Prod.snd)
  -- The names do not depend on the value, and the value takes one place in the list of values.
  have hnames : ∀ value, Values.columnsSql (others.insert column value) =
      Text.separated ", " (before.map Prod.fst ++ column :: after.map Prod.fst) := by
    intro value
    rw [Values.columnsSql, OrderedMap.keys, hentries value, List.map_append, List.map_cons]
  have hvalues : ∀ value, Values.literalsSql (others.insert column value) =
      Text.separated ", "
        ((before.map Prod.snd ++ value :: after.map Prod.snd).map Literal.prepared) := by
    intro value
    rw [Values.literalsSql, OrderedMap.values, hentries value, List.map_append (f := Prod.snd),
      List.map_cons]
  refine ⟨("INSERT INTO " ++ table ++ " (" ++
      Text.separated ", " (before.map Prod.fst ++ column :: after.map Prod.fst) ++
      ") VALUES (").toList ++ first,
    last ++ ("); SELECT @@IDENTITY AS " ++ bracketed defaultPrimaryKey).toList,
    fun value hbare hnull => ?_⟩
  show (Values.insertSql table (others.insert column value)).toList = _
  have hlist : (Values.literalsSql (others.insert column value)).toList =
      first ++ value.sql.toList ++ last := by
    rw [hvalues]
    exact hframe value hbare hnull
  unfold Values.insertSql
  rw [String.toList_append, String.toList_append, String.toList_append, hlist, hnames]
  simp only [String.toList_append, List.append_assoc]

/-- A place for one value in a condition or in an insert, all else being given. -/
inductive Slot where
  | equality (column : String)
  | comparison (column : String) (comparator : Comparator)
  | list (column : String) (before after : List Literal)
  | insert (table column : String) (others : Values)

def Slot.sql : Slot → Literal → String
  | equality column, value => (Condition.equals value).sql column
  | comparison column comparator, value => (Condition.compare [(comparator, value)]).sql column
  | list column before after, value => (Condition.isIn (before ++ value :: after)).sql column
  | insert table column others, value => Values.insertSql table (others.insert column value)

theorem Slot.frames (slot : Slot) : Frames slot.sql := by
  cases slot with
  | equality column =>
      refine ⟨column.toList ++ ['='], [], fun value _ hnull => ?_⟩
      show (CriteriaSql.equality column value).toList = _
      rw [CriteriaSql.equality, hnull]
      simp [Literal.prepared_eq_sql]
  | comparison column comparator =>
      obtain ⟨before, after, hframe⟩ := comparator.frames column
      refine ⟨before, after, fun value hbare hnull => ?_⟩
      rw [← hframe value hbare hnull]
      show (Text.separated " AND " [comparator.sql column value]).toList = _
      rw [Text.toList_separated]
      simp
  | list column before after =>
      obtain ⟨first, last, hframe⟩ := frames_separated ", " before after
      refine ⟨(column ++ " IN (").toList ++ first, last ++ [')'], fun value hbare hnull => ?_⟩
      have hlist := hframe value hbare hnull
      show (column ++ " IN (" ++ Text.separated ", " _ ++ ")").toList = _
      rw [String.toList_append, String.toList_append, hlist]
      simp
  | insert table column others =>
      exact frames_insert table column others

/-- Numbers in one place make the same statement only if they are written alike. -/
theorem Slot.sql_eq_iff (slot : Slot) {v w : Literal} (hv : v.content? = none ∧ v.isNull = false)
    (hw : w.content? = none ∧ w.isNull = false) : slot.sql v = slot.sql w ↔ v.sql = w.sql := by
  obtain ⟨before, after, hframe⟩ := slot.frames
  rw [← String.toList_inj, hframe v hv.1 hv.2, hframe w hw.1 hw.2, List.append_left_inj,
    List.append_right_inj, String.toList_inj]

theorem Literal.isNumber_ofInteger (n : Int) :
    (ofInteger n).content? = none ∧ (ofInteger n).isNull = false := by
  show (ofNumber (.integer n)).content? = none ∧ (ofNumber (.integer n)).isNull = false
  rw [ofNumber]
  split <;> exact ⟨rfl, rfl⟩

/-- An integer is written exactly up to 2 ^ 63. Above, the digits of one are written that is
rounded to the same multiple of 2048 and ends in three zeros. So two integers make the same
literal, and in one place the same statement, only if both are above and are rounded alike. -/
theorem integer_literals {m n : Int} (hm : m ≤ greatestWord64) (hn : n ≤ greatestWord64) :
    (n ≤ greatestInt64 → (Literal.ofInteger n).sql = toString n) ∧
    (greatestInt64 < n → ∃ whole : Nat, (Literal.ofInteger n).sql = toString whole ∧
      greatestInt64 < whole ∧ 1000 ∣ whole ∧
      roundToEven whole 2048 = roundToEven n.toNat 2048) ∧
    ((Literal.ofInteger m).sql = (Literal.ofInteger n).sql ↔ m = n ∨ RoundAlike m n) ∧
    ∀ slot : Slot, slot.sql (.ofInteger m) = slot.sql (.ofInteger n) ↔ m = n ∨ RoundAlike m n := by
  have hliterals := Literal.sql_ofInteger_eq_iff hm hn
  refine ⟨Literal.sql_ofInteger, fun h => Literal.sql_ofInteger_large h hn, hliterals, ?_⟩
  intro slot
  rw [slot.sql_eq_iff (Literal.isNumber_ofInteger m) (Literal.isNumber_ofInteger n), hliterals]

/-- The first two integers above the bound cannot be told apart in a condition. -/
theorem integer_literals_first :
    (Slot.equality "id").sql (.ofInteger 9223372036854775808) =
      (Slot.equality "id").sql (.ofInteger 9223372036854775809) := by
  have hfirst := integer_literals (m := 9223372036854775808) (n := 9223372036854775809)
    (by decide) (by decide)
  exact (hfirst.2.2.2 (.equality "id")).2 (.inr ⟨by decide, by decide, by decide⟩)

/-- What is written of such an integer is another one. -/
theorem integer_literals_inexact :
    (Literal.ofInteger 9223372036854775809).sql = "9223372036854776000" ∧
      toString (9223372036854775809 : Int) = "9223372036854775809" := by
  decide +kernel

end CriteriaSql
