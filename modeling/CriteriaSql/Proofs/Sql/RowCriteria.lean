import CriteriaSql.Proofs.Criteria.Attributes
import CriteriaSql.Proofs.Sql.InsertReading

/-!
A row as a condition. It is the filter with an equality for each column, and an object that is read
as a row and as a filter is the same condition in both if it holds nothing but equalities.
-/

namespace CriteriaSql

namespace Values

/-- The filter that every column has its value, in the order of the row. -/
def equalities (values : Values) : Predicate :=
  values.entries.foldl (fun predicate entry => predicate.equals entry.1 entry.2) []

theorem equalities_eq_map (values : Values) :
    values.equalities = values.entries.map fun entry => .column entry.1 (.equals entry.2) := by
  have hfold : ∀ (entries : List (String × Literal)) (predicate : Predicate),
      entries.foldl (fun predicate entry => predicate.equals entry.1 entry.2) predicate =
        predicate ++ entries.map fun entry => .column entry.1 (.equals entry.2) := by
    intro entries
    induction entries with
    | nil =>
        intro predicate
        exact (List.append_nil predicate).symm
    | cons entry rest ih =>
        intro predicate
        rw [List.foldl_cons, ih, Predicate.equals, List.map_cons, List.append_assoc,
          List.singleton_append]
  exact hfold values.entries []

theorem sql_equalities (values : Values) :
    Predicate.sql values.equalities = .ok values.criteriaSql := by
  have hclauses : (values.entries.map fun entry => Clause.column entry.1 (.equals entry.2)).mapM
      Clause.sql = .ok (values.entries.map fun entry => equality entry.1 entry.2) := by
    rw [List.mapM_map]
    exact mapM_eq_ok_map_iff.2 fun entry _ => by rw [Function.comp_apply, Clause.sql]; rfl
  rw [Predicate.sql, clauseSqls_eq_mapM, equalities_eq_map, hclauses]
  rfl

end Values

/-- A column and one value that it has to have: the key is no keyword, and the value is neither a
list of values nor of comparisons. -/
def IsEquality (key : String) (value : Json) : Prop :=
  Text.lower key ∉ ["or", "and", "like", "not"] ∧ value.items? = none ∧ value.compares = false

theorem Condition.ofJson_of_not_compares {value : Json} (h : value.compares = false) :
    Condition.ofJson value = .ok (.equals (.ofJson value)) := by
  cases value with
  | object members => rw [ofJson, isComparison_eq_compares, h, if_neg (by decide)]
  | null | bool _ | number _ | string _ | array _ => rfl

theorem clauseOf_array_ne_equals (key : String) (items : List Json) (literal : Literal) :
    clauseOf key (.array items) ≠ .ok (.column key (.equals literal)) := by
  intro h
  rcases array_cases key with hkey | hkey | hkey
  · rw [clauseOf_or hkey] at h
    obtain ⟨_, -, h⟩ := eq_ok_of_bind h
    cases h
  · rw [clauseOf_and hkey] at h
    obtain ⟨_, -, h⟩ := eq_ok_of_bind h
    cases h
  · rw [clauseOf_values hkey] at h
    cases h

/-- Nothing else is read as an equality. -/
theorem clauseOf_eq_equals_iff {key : String} {value : Json} :
    clauseOf key value = .ok (.column key (.equals (.ofJson value))) ↔ IsEquality key value := by
  constructor
  · intro h
    cases value with
    | array items => exact absurd h (clauseOf_array_ne_equals key items _)
    | null | bool _ | number _ | string _ | object _ =>
        rw [clauseOf_single rfl] at h
        rcases Clause.ofMember_cases h with ⟨-, _, -, hclause⟩ | ⟨hkey, _, hcondition, hclause⟩
        · cases hclause
        · rw [← (Clause.column.inj hclause).2] at hcondition
          rcases Condition.ofJson_cases hcondition with ⟨hvalue, -⟩ | ⟨_, _, -, -, -, hcompare⟩
          · exact ⟨hkey, rfl, hvalue⟩
          · cases hcompare
  · rintro ⟨hkey, hitems, hvalue⟩
    rw [clauseOf_single hitems, Clause.ofMember, Keyword.ofKey?_eq_none_iff.2 hkey,
      Condition.ofJson_of_not_compares hvalue]
    rfl

/-- The condition of a row is the filter that each column has its value, in the order of the row.
An object is always read as a row, and it is read as this filter exactly if no key of it is a
keyword and no value a list, of values or of comparisons. Then filter and row are one condition. -/
theorem row_criteria_agree :
    (∀ values : Values, Predicate.sql values.equalities = .ok values.criteriaSql) ∧
    ∀ object : OrderedMap Json, ∃ values : Values,
      Values.ofJson (.object object.entries) = .ok values ∧
      (Predicate.ofJson (.object object.entries) = .ok values.equalities ↔
        ∀ member ∈ object.entries, IsEquality member.1 member.2) ∧
      ((∀ member ∈ object.entries, IsEquality member.1 member.2) →
        ∃ predicate : Predicate, Predicate.ofJson (.object object.entries) = .ok predicate ∧
          predicate.sql = .ok values.criteriaSql) := by
  refine ⟨Values.sql_equalities, fun object => ?_⟩
  obtain ⟨values, hvalues, hentries⟩ := Values.entries_of_ofJson object.distinct
  have hread : Predicate.ofJson (.object object.entries) = .ok values.equalities ↔
      ∀ member ∈ object.entries, IsEquality member.1 member.2 := by
    rw [Predicate.ofJson_object, values.equalities_eq_map, hentries, List.map_map]
    refine mapM_eq_ok_map_iff.trans ?_
    exact forall₂_congr fun member _ => clauseOf_eq_equals_iff
  refine ⟨values, hvalues, hread, fun hequalities => ?_⟩
  exact ⟨_, hread.2 hequalities, values.sql_equalities⟩

/-- A null, a regular expression and an object that is no comparison. -/
def wrappedRow : OrderedMap Json where
  entries := [("Likes", .null), ("name", .object [("$regex", .string "^bo")]),
    ("meta", .object [("Not", .bool true)])]
  distinct := by decide

theorem row_criteria_agree_wrapped :
    (∀ member ∈ wrappedRow.entries, IsEquality member.1 member.2) ∧
      ∃ (predicate : Predicate) (values : Values),
        Predicate.ofJson (.object wrappedRow.entries) = .ok predicate ∧
        Values.ofJson (.object wrappedRow.entries) = .ok values ∧
        predicate.sql = .ok "Likes IS NULL AND name='/^bo/' AND meta='\x7b Not :true\x7d'" := by
  have hequalities : ∀ member ∈ wrappedRow.entries, IsEquality member.1 member.2 := by
    simp only [wrappedRow, List.forall_mem_cons]
    exact ⟨⟨by decide, rfl, rfl⟩, ⟨by decide, rfl, rfl⟩, ⟨by decide, rfl, rfl⟩,
      List.forall_mem_nil _⟩
  obtain ⟨values, hvalues, -, hsame⟩ := row_criteria_agree.2 wrappedRow
  obtain ⟨predicate, hpredicate, hsql⟩ := hsame hequalities
  obtain rfl := Except.ok.inj hvalues
  exact ⟨hequalities, predicate, _, hpredicate, rfl, hsql⟩

end CriteriaSql
