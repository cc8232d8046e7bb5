import CriteriaSql.Proofs.Criteria.KeyOrder
import CriteriaSql.Proofs.Sql.AggregateColumns

/-!
Columns given alone and in lists. Only the empty name makes a difference: alone it is no column, and
in a list it is one.
-/

namespace CriteriaSql

open Sql (Function written)

/-- An object in which a key has a value, and all other keys what they had. -/
def Json.withMember (object : OrderedMap Json) (key : String) (value : Json) : Json :=
  .object (object.insert key value).entries

namespace Criteria

/-- The key under which the columns of a kind are given. -/
def columnKey : Option Function → String
  | none => "groupBy"
  | some .sum => "sum"
  | some .average => "average"
  | some .max => "max"
  | some .min => "min"

theorem exists_columnKey_eq {key : String} (h : key ∈ columnKeys) :
    ∃ kind, columnKey kind = key := by
  simp only [columnKeys, calculationKeys, List.mem_cons, List.not_mem_nil, or_false] at h
  rcases h with rfl | rfl | rfl | rfl | rfl
  · exact ⟨none, rfl⟩
  · exact ⟨some .sum, rfl⟩
  · exact ⟨some .average, rfl⟩
  · exact ⟨some .min, rfl⟩
  · exact ⟨some .max, rfl⟩

/-- The same criteria with other columns of one kind. -/
def withColumns (kind : Option Function) (columns : List String) (criteria : Criteria) :
    Criteria :=
  match kind with
  | none => { criteria with groupBy := columns }
  | some .sum => { criteria with sum := columns }
  | some .average => { criteria with average := columns }
  | some .max => { criteria with max := columns }
  | some .min => { criteria with min := columns }

section

variable (object : OrderedMap Json)

theorem given?_insert_of_ne {key other : String} (h : other ≠ key) (value : Json) :
    given? (object.insert key value).entries other = given? object.entries other := by
  unfold given?
  rw [OrderedMap.lookup_insert, if_neg h]

theorem columnsOf_insert_null (key : String) :
    columnsOf (object.insert key .null).entries key = .ok [] := by
  unfold columnsOf given?
  rw [OrderedMap.lookup_insert, if_pos rfl]

theorem columnsOf_insert_string (key s : String) :
    columnsOf (object.insert key (.string s)).entries key = .ok (if s = "" then [] else [s]) := by
  unfold columnsOf given?
  rw [OrderedMap.lookup_insert, if_pos rfl]

theorem columnsOf_insert_listed (key s : String) :
    columnsOf (object.insert key (.array [.string s])).entries key = .ok [s] := by
  unfold columnsOf given?
  rw [OrderedMap.lookup_insert, if_pos rfl]
  rfl

end

/-- Reading looks at each key once, so that what is given under the key of one kind decides the
columns of this kind and nothing else. -/
theorem ofJson_withMember (object : OrderedMap Json) (kind : Option Function) {value : Json}
    {columns : List String}
    (h : columnsOf (object.insert (columnKey kind) value).entries (columnKey kind) = .ok columns) :
    ofJson (.withMember object (columnKey kind) value) =
      withColumns kind columns <$> ofJson (.withMember object (columnKey kind) .null) := by
  have hnone := columnsOf_insert_null object (columnKey kind)
  have hframe : ∀ other, other ≠ columnKey kind →
      given? (object.insert (columnKey kind) value).entries other =
        given? (object.insert (columnKey kind) .null).entries other := by
    intro other hother
    rw [given?_insert_of_ne object hother, given?_insert_of_ne object hother]
  have hothers := fun other hother => columnsOf_congr (hframe other hother)
  have hrest : ∀ other ∈ ["where", "sort", "limit"], other ≠ columnKey kind := by
    rcases kind with _ | _ | _ | _ | _ <;> decide
  unfold Json.withMember ofJson ofMembers
  dsimp only
  rw [filterOf_congr (hframe "where" (hrest _ (by decide))),
    sortOf_congr (hframe "sort" (hrest _ (by decide))),
    limitOf_congr (hframe "limit" (hrest _ (by decide)))]
  simp only [map_bind]
  -- One of the five lists is given on either side, and the others are read alike.
  rcases kind with _ | _ | _ | _ | _ <;>
  · simp only [columnKey] at hothers h hnone ⊢
    simp (disch := decide) only [hothers, h, hnone]
    rfl

/-- A column of a kind, as it is put out. -/
def outputOf : Option Function → String → Output
  | none => .grouped
  | some function => .calculated function

/-- The columns of one kind stand together, those of the other kinds before and after them. -/
theorem exists_outputs_withColumns_eq (kind : Option Function) (criteria : Criteria) :
    ∃ before after, ∀ columns, (criteria.withColumns kind columns).outputs =
      before ++ columns.map (outputOf kind) ++ after := by
  obtain ⟨_, _, groupBy, sum, average, min, max, _⟩ := criteria
  rcases kind with _ | function
  · exact ⟨[], sum.map (.calculated .sum) ++ average.map (.calculated .average) ++
      max.map (.calculated .max) ++ min.map (.calculated .min),
      fun columns => by simp [outputs, withColumns, outputOf]⟩
  cases function with
  | sum =>
      exact ⟨groupBy.map .grouped, average.map (.calculated .average) ++
        max.map (.calculated .max) ++ min.map (.calculated .min),
        fun columns => by simp [outputs, withColumns, outputOf]⟩
  | average =>
      exact ⟨groupBy.map .grouped ++ sum.map (.calculated .sum),
        max.map (.calculated .max) ++ min.map (.calculated .min),
        fun columns => by simp [outputs, withColumns, outputOf]⟩
  | max =>
      exact ⟨groupBy.map .grouped ++ sum.map (.calculated .sum) ++
        average.map (.calculated .average), min.map (.calculated .min),
        fun columns => by simp [outputs, withColumns, outputOf]⟩
  | min =>
      exact ⟨groupBy.map .grouped ++ sum.map (.calculated .sum) ++
        average.map (.calculated .average) ++ max.map (.calculated .max), [],
        fun columns => by simp [outputs, withColumns, outputOf]⟩

/-- An aggregate select with one column more is longer. -/
theorem aggregateSql_withColumns_ne (table : String) {kind : Option Function} {criteria : Criteria}
    (h : (criteria.withColumns kind []).isAggregate) (column : String) :
    (criteria.withColumns kind []).aggregateSql table ≠
      (criteria.withColumns kind [column]).aggregateSql table := by
  obtain ⟨before, after, houtputs⟩ := exists_outputs_withColumns_eq kind criteria
  have hwithout := houtputs []
  have hwith := houtputs [column]
  simp only [List.map_nil, List.map_cons, List.append_nil, List.append_assoc,
    List.singleton_append] at hwithout hwith
  have hothers : before.map Output.text ++ after.map Output.text ≠ [] := by
    rw [← List.map_append, ← hwithout, Ne, List.map_eq_nil_iff]
    exact outputs_ne_nil h
  have hlength := Text.length_separated_lt ", " (by decide) hothers
    (outputOf kind column).text
  rw [Ne, aggregateSql_eq_iff, aggregateColumns_eq, aggregateColumns_eq, hwithout, hwith,
    List.map_append, List.map_append, List.map_cons]
  intro heq
  rw [heq] at hlength
  exact Nat.lt_irrefl _ hlength

/-- A plain select goes on with a limit or with all columns, an aggregate select that groups nothing
with a function. -/
theorem aggregateSql_ne_plain (table : String) {a b : Criteria} {function : Function}
    {column : String} (h : a.outputs = [.calculated function column]) :
    a.aggregateSql table ≠ String.ofList (written (b.plainPieces table)) := by
  have hplain : ((written (b.plainPieces table)).drop 7).head? ∈ [some 'T', some '*'] := by
    unfold plainPieces topSql
    split <;> simp
  have haggregate : ((a.aggregateSql table).toList.drop 7).head? ∉ [some 'T', some '*'] := by
    rw [aggregateSql, aggregateColumns_eq, h]
    cases function <;> simp [Text.toList_separated, Output.text, calculation, Function.text]
  intro heq
  rw [heq, String.toList_ofList] at haggregate
  exact haggregate hplain

theorem hasCalculation_withColumns (kind : Option Function) (column : String)
    (criteria : Criteria) : (criteria.withColumns kind [column]).hasCalculation =
      (kind.isSome || (criteria.withColumns kind []).hasCalculation) := by
  rcases kind with _ | _ | _ | _ | _ <;> simp [hasCalculation, withColumns]

/-- A column is never given in vain: the select is another one than without it, or one of the two is
refused. -/
theorem select_withColumns_ne (table : String) (kind : Option Function) (column : String)
    (criteria : Criteria) :
    ((criteria.withColumns kind []).select table).map Logged.value ≠
      ((criteria.withColumns kind [column]).select table).map Logged.value := by
  have haggregate : (criteria.withColumns kind [column]).isAggregate = true := by
    rcases kind with _ | _ | _ | _ | _ <;> simp [isAggregate, hasCalculation, withColumns]
  rw [map_value_select, map_value_select, if_pos haggregate, hasCalculation_withColumns]
  cases kind with
  | none =>
      -- Without groups there is an aggregate exactly if there is something to calculate.
      have hnone : (criteria.withColumns none []).isAggregate =
          (criteria.withColumns none []).hasCalculation := rfl
      cases hcalculation : (criteria.withColumns none []).hasCalculation with
      | true =>
          have hne := aggregateSql_withColumns_ne table (hnone.trans hcalculation) column
          simpa [hnone, hcalculation] using hne
      | false =>
          rw [hnone, hcalculation]
          cases (criteria.withColumns none []).hasRegex <;> simp
  | some function =>
      -- With the column there is a statement. Without it there may be none, or a plain one.
      cases hwithout : (criteria.withColumns (some function) []).isAggregate with
      | true =>
          have hne := aggregateSql_withColumns_ne table hwithout column
          cases (criteria.withColumns (some function) []).hasCalculation with
          | true => simpa using hne
          | false => simp
      | false =>
          obtain ⟨before, after, houtputs⟩ :=
            exists_outputs_withColumns_eq (some function) criteria
          have hempty := (houtputs []).symm.trans (outputs_eq_nil_iff.2 hwithout)
          have hsingle : (criteria.withColumns (some function) [column]).outputs =
              [.calculated function column] := by
            simp only [List.map_nil, List.append_nil, List.append_eq_nil_iff] at hempty
            rw [houtputs, hempty.1, hempty.2]
            rfl
          have hne := aggregateSql_ne_plain table (b := criteria.withColumns (some function) [])
            hsingle
          cases (criteria.withColumns (some function) []).hasRegex with
          | true => simp
          | false => simpa using hne.symm

end Criteria

/-- A column that is given alone is read as the list of it, and all that comes of it is the same,
unless its name is empty. The empty name alone counts as absent, as null does, and in a list it is a
column like others, so that the selects differ, or one of them is refused, wherever the criteria are
read at all. -/
theorem column_alone_eq_listed_iff (table : String) (object : OrderedMap Json) {key : String}
    (hkey : key ∈ Criteria.columnKeys) (s : String) :
    (s ≠ "" → selectOfJson table (.withMember object key (.string s)) =
      selectOfJson table (.withMember object key (.array [.string s]))) ∧
    selectOfJson table (.withMember object key (.string "")) =
      selectOfJson table (.withMember object key .null) ∧
    ((selectOfJson table (.withMember object key (.string s))).map Logged.value =
        (selectOfJson table (.withMember object key (.array [.string s]))).map Logged.value ↔
      s ≠ "" ∨ ∃ fault, Criteria.ofJson (.withMember object key .null) = .error fault) := by
  obtain ⟨kind, hkind⟩ := Criteria.exists_columnKey_eq hkey
  -- All else is read with null in the member's place, and the columns are put in afterwards.
  have hread : ∀ {value columns}, Criteria.columnsOf (object.insert key value).entries key =
      .ok columns → selectOfJson table (.withMember object key value) =
        (Criteria.ofJson (.withMember object key .null) >>= fun criteria =>
          (criteria.withColumns kind columns).select table) := by
    intro value columns h
    subst hkind
    rw [selectOfJson, Criteria.ofJson_withMember object kind h, bind_map_left]
  have halone := hread (Criteria.columnsOf_insert_string object key s)
  have hlisted := hread (Criteria.columnsOf_insert_listed object key s)
  refine ⟨fun hs => ?_, ?_, ?_⟩
  · rw [halone, hlisted, if_neg hs]
  · rw [hread (Criteria.columnsOf_insert_string object key ""),
      hread (Criteria.columnsOf_insert_null object key)]
    rfl
  rw [halone, hlisted]
  cases Criteria.ofJson (.withMember object key .null) with
  | error fault => exact ⟨fun _ => .inr ⟨fault, rfl⟩, fun _ => rfl⟩
  | ok criteria =>
      constructor
      · intro hsame
        left
        rintro rfl
        exact criteria.select_withColumns_ne table kind "" hsame
      · rintro (hs | ⟨fault, hfault⟩)
        · rw [if_neg hs]
        · cases hfault

/-- A column of an aggregate select, given alone in the place of a null. -/
theorem column_alone_eq_listed_sum :
    "sum" ∈ Criteria.columnKeys ∧
      selectOfJson "T" (.object [("sum", .string "amount"), ("groupBy", .string "region")]) =
        selectOfJson "T"
          (.object [("sum", .array [.string "amount"]), ("groupBy", .string "region")]) := by
  have hkey : "sum" ∈ Criteria.columnKeys := by decide
  exact ⟨hkey, (column_alone_eq_listed_iff "T"
    ⟨[("sum", .null), ("groupBy", .string "region")], by decide⟩ hkey "amount").1 (by decide)⟩

/-- The empty name alone is no column, and in a list it is a column to calculate from. -/
theorem column_alone_ne_listed :
    selectOfJson "T" (.withMember .empty "sum" (.string "")) = .ok ⟨"SELECT * FROM T ", []⟩ ∧
      selectOfJson "T" (.withMember .empty "sum" (.array [.string ""])) =
        .ok ⟨"SELECT SUM() AS  FROM T ", []⟩ ∧
      selectOfJson "T" (.withMember .empty "sum" (.string "")) ≠
        selectOfJson "T" (.withMember .empty "sum" (.array [.string ""])) := by
  have halone : selectOfJson "T" (.withMember .empty "sum" (.string "")) =
      .ok ⟨"SELECT * FROM T ", []⟩ := rfl
  have hlisted : selectOfJson "T" (.withMember .empty "sum" (.array [.string ""])) =
      .ok ⟨"SELECT SUM() AS  FROM T ", []⟩ := rfl
  refine ⟨halone, hlisted, ?_⟩
  rw [halone, hlisted, Ne, Except.ok.injEq, Logged.mk.injEq]
  decide

end CriteriaSql
