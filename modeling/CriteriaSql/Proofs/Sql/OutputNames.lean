import CriteriaSql.Proofs.Sql.AggregateColumns
import CriteriaSql.Proofs.Sql.SelectGrammar
import CriteriaSql.Schema.Describe
import Mathlib.Data.List.Nodup

/-!
The names under which an aggregate select puts out its columns. A calculation bears the name of the
column that it is calculated from, so that two columns have one name if and only if a column is
asked for twice, and then no row can hold both.
-/

namespace CriteriaSql

open Sql (isName isWord)

namespace Sql

/-- A calculation is put out under the name after AS. -/
def Item.outputName : Item → String
  | column name | calculation _ _ name => name.text

/-- The names of the columns that are put out, if they are named one by one. -/
def Select.outputNames? (select : Select) : Option (List String) :=
  match select.columns with
  | .all => none
  | .items first rest => some ((first :: rest).map Item.outputName)

end Sql

theorem Output.outputName_item (output : Output) (h : isName output.column) :
    (output.item h).outputName = output.column := by
  cases output <;> rfl

/-- Whatever values there are for the names, a row has each value under its own name. -/
def Row.CanHold (names : List String) : Prop :=
  ∀ values : List Json, values.length = names.length →
    ∃ row : Row, ∀ entry ∈ names.zip values, row.get? entry.1 = some entry.2

/-- Values that are all different need as many names. -/
theorem Row.canHold_iff {names : List String} : CanHold names ↔ names.Nodup := by
  constructor
  · intro hold
    -- With numbers for values, one name in two places would have two numbers.
    obtain ⟨row, hrow⟩ := hold ((List.range names.length).map fun i : ℕ => .number (.integer i))
      (by simp)
    have hget : ∀ i, (hi : i < names.length) →
        row.get? names[i] = some (.number (.integer i)) := by
      intro i hi
      apply hrow (names[i], .number (.integer i))
      rw [List.mem_iff_getElem]
      exact ⟨i, by simpa using hi, by simp⟩
    rw [List.nodup_iff_injective_getElem]
    intro i j hsame
    have hvalues := hget i i.isLt
    rw [show names[(i : Nat)] = names[(j : Nat)] from hsame, hget j j.isLt] at hvalues
    simp only [Option.some.injEq, Json.number.injEq, Json.Number.integer.injEq] at hvalues
    exact Fin.ext (Int.ofNat.inj hvalues).symm
  · intro hnodup values hlength
    have hnames : (names.zip values).map Prod.fst = names :=
      List.map_fst_zip (Nat.le_of_eq hlength.symm)
    refine ⟨⟨names.zip values, by rwa [hnames]⟩, fun entry hentry => ?_⟩
    exact OrderedMap.get?_eq_some_iff.2 hentry

namespace Criteria

/-- The lists of columns, in the order in which they are put out. -/
def columnLists (criteria : Criteria) : List (List String) :=
  [criteria.groupBy, criteria.sum, criteria.average, criteria.max, criteria.min]

/-- The names under which the columns are put out. -/
def outputNames (criteria : Criteria) : List String :=
  criteria.outputs.map Output.column

theorem outputNames_eq_flatten (criteria : Criteria) :
    criteria.outputNames = criteria.columnLists.flatten := by
  simp [outputNames, columnLists, outputs, Function.comp_def, Output.column]

theorem outputNames_nodup_iff {criteria : Criteria}
    (hlists : ∀ columns ∈ criteria.columnLists, columns.Nodup) :
    criteria.outputNames.Nodup ↔ criteria.columnLists.Pairwise List.Disjoint := by
  rw [outputNames_eq_flatten, List.nodup_flatten]
  exact and_iff_right hlists

/-- The names are those that a reader finds in the text. -/
theorem outputNames?_read {table : String} {criteria : Criteria} (htable : isWord table.toList)
    (h : criteria.isAggregate) (hnames : ∀ output ∈ criteria.outputs, isName output.column) :
    (Sql.read? (criteria.aggregateSql table)).bind Sql.Select.outputNames? =
      some criteria.outputNames := by
  obtain ⟨first, rest, hitems, hlexed⟩ := lexed?_aggregate_items htable h hnames
  rw [Sql.read?_of_lexed? hlexed, Option.bind_some]
  simp only [Sql.Select.outputNames?]
  rw [← hitems, List.map_pmap, outputNames, ← List.pmap_eq_map hnames]
  exact congrArg some (List.pmap_congr_left _ fun output _ h _ => output.outputName_item h)

end Criteria

/-- An aggregate select puts its columns out under names that are all different, and a row can hold
all their values, if and only if no column stands in two of the lists: a calculation has no name of
its own. -/
theorem output_names_nodup_iff (table : String) {criteria : Criteria} (h : criteria.isAggregate)
    (hvalid : criteria.validate = .ok ())
    (hlists : ∀ columns ∈ criteria.columnLists, columns.Nodup) :
    ∃ sql, criteria.select table = .ok sql ∧
      sql.value = "SELECT " ++ Text.separated ", " (criteria.outputs.map Output.text) ++
        " FROM " ++ table ++ " " ∧
      (isWord table.toList → (∀ output ∈ criteria.outputs, isName output.column) →
        (Sql.read? sql.value).bind Sql.Select.outputNames? = some criteria.outputNames) ∧
      (criteria.outputNames.Nodup ↔ criteria.columnLists.Pairwise List.Disjoint) ∧
      (Row.CanHold criteria.outputNames ↔ criteria.columnLists.Pairwise List.Disjoint) := by
  obtain ⟨sql, hsql, hvalue⟩ := Criteria.select_of_validate table h hvalid
  have hdisjoint := Criteria.outputNames_nodup_iff hlists
  refine ⟨sql, hsql, ?_, fun htable hnames => ?_, hdisjoint, Row.canHold_iff.trans hdisjoint⟩
  · rw [hvalue, Criteria.aggregateSql, Criteria.aggregateColumns_eq]
  · rw [hvalue]
    exact Criteria.outputNames?_read htable h hnames

/-- Lists that have no column in common. -/
theorem output_names_nodup_apart :
    ∃ sql, { Criteria.empty with
          groupBy := ["region", "year"], sum := ["amount"], max := ["high"] }.select "T" = .ok sql ∧
      (Sql.read? sql.value).bind Sql.Select.outputNames? =
        some ["region", "year", "amount", "high"] ∧
      Row.CanHold ["region", "year", "amount", "high"] := by
  obtain ⟨sql, hsql, -, hread, -, hhold⟩ := @output_names_nodup_iff "T"
    { Criteria.empty with groupBy := ["region", "year"], sum := ["amount"], max := ["high"] }
    rfl rfl (by decide)
  refine ⟨sql, hsql, hread (by decide) (by decide), hhold.2 ?_⟩
  simp [Criteria.columnLists, Criteria.empty]

/-- The sum and the average of one column have one name. -/
theorem output_names_clash :
    { Criteria.empty with sum := ["a"], average := ["a"] }.isAggregate ∧
      { Criteria.empty with sum := ["a"], average := ["a"] }.validate = .ok () ∧
      (∀ columns ∈ { Criteria.empty with sum := ["a"], average := ["a"] }.columnLists,
        columns.Nodup) ∧
      { Criteria.empty with sum := ["a"], average := ["a"] }.select "T" =
        .ok ⟨"SELECT SUM(a) AS a, AVG(a) AS a FROM T ", []⟩ ∧
      (Sql.read? "SELECT SUM(a) AS a, AVG(a) AS a FROM T ").bind Sql.Select.outputNames? =
        some ["a", "a"] ∧
      { Criteria.empty with sum := ["a"], average := ["a"] }.outputNames = ["a", "a"] ∧
      ¬ ["a", "a"].Nodup ∧ ¬ Row.CanHold ["a", "a"] := by
  have hread := @Criteria.outputNames?_read "T"
    { Criteria.empty with sum := ["a"], average := ["a"] } (by decide) rfl (by decide)
  refine ⟨rfl, rfl, by decide, by rfl, hread, rfl, by decide, ?_⟩
  rw [Row.canHold_iff]
  decide

end CriteriaSql
