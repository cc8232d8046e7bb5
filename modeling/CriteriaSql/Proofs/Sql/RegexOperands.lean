import CriteriaSql.Proofs.Sql.Places

/-!
Regular expressions under LIKE. A like map refuses them, at any depth. The comparators that search
do not: they search for the text of the expression.
-/

namespace CriteriaSql

/-- The comparators that are written with LIKE. -/
def Comparator.isSearch : Comparator → Bool
  | like | contains | startsWith | endsWith => true
  | lessThan | lessThanOrEqual | greaterThan | greaterThanOrEqual | not => false

namespace Predicate

/-- Some like map of the predicate, at any depth, has a regular expression for a pattern. -/
def MapsRegex (predicate : Predicate) : Prop :=
  ∃ patterns column source, predicate.HasClause (.like patterns) ∧
    (column, .regex source) ∈ patterns

/-- Some comparator of the predicate, at any depth, searches for a regular expression. -/
def SearchesRegex (predicate : Predicate) : Prop :=
  ∃ column comparisons comparator source,
    predicate.HasClause (.column column (.compare comparisons)) ∧
      (comparator, .regex source) ∈ comparisons ∧ comparator.isSearch = true

end Predicate

theorem Clause.hasRegex_like_iff {patterns : List (String × Literal)} :
    (Clause.like patterns).hasRegex = true ↔
      ∃ column source, (column, .regex source) ∈ patterns := by
  have hregex : ∀ value : Literal, value.isRegex = true → ∃ source, value = .regex source := by
    intro value h
    cases value with
    | regex source => exact ⟨source, rfl⟩
    | null | bool _ | int _ | float _ | text _ | dateTime _ | json _ => cases h
  rw [hasRegex_like, List.any_eq_true]
  constructor
  · rintro ⟨⟨column, value⟩, hentry, hvalue⟩
    obtain ⟨source, rfl⟩ := hregex value hvalue
    exact ⟨column, source, hentry⟩
  · rintro ⟨column, source, hentry⟩
    exact ⟨(column, .regex source), hentry, rfl⟩

/-- From a clause with a regular expression a like map is reached that has it. -/
theorem Clause.mapsRegex_of_mem {clause : Clause} (h : clause.hasRegex = true)
    {predicate : Predicate} (hclause : clause ∈ predicate) : predicate.MapsRegex := by
  have hbranches : ∀ (junction : Junction) (branches : List Predicate),
      (∀ branch ∈ branches, ∀ clause ∈ branch, clause.hasRegex = true →
        ∀ {predicate : Predicate}, clause ∈ predicate → predicate.MapsRegex) →
      (junction.clause branches).hasRegex = true → ∀ {predicate : Predicate},
        junction.clause branches ∈ predicate → predicate.MapsRegex := by
    intro junction branches ih h predicate hjunction
    rw [junction.hasRegex_clause, List.any_eq_true] at h
    obtain ⟨branch, hbranch, hregex⟩ := h
    rw [Predicate.hasRegex_eq, List.any_eq_true] at hregex
    obtain ⟨clause, hclause, hregex⟩ := hregex
    obtain ⟨patterns, column, source, hhas, hentry⟩ :=
      ih branch hbranch clause hclause hregex hclause
    exact ⟨patterns, column, source, hhas.of_branch hbranch hjunction, hentry⟩
  induction clause using Clause.induct generalizing predicate with
  | any branches ih => exact hbranches .any branches ih h hclause
  | all branches ih => exact hbranches .all branches ih h hclause
  | like patterns =>
      obtain ⟨column, source, hentry⟩ := hasRegex_like_iff.1 h
      exact ⟨patterns, column, source, Predicate.hasClause_of_mem hclause, hentry⟩
  | column name condition =>
      rw [hasRegex_column] at h
      cases h

theorem Predicate.hasRegex_iff {predicate : Predicate} :
    predicate.hasRegex = true ↔ predicate.MapsRegex := by
  constructor
  · intro h
    rw [hasRegex_eq, List.any_eq_true] at h
    obtain ⟨clause, hclause, hregex⟩ := h
    exact Clause.mapsRegex_of_mem hregex hclause
  · rintro ⟨patterns, column, source, hhas, hentry⟩
    exact hhas.hasRegex (Clause.hasRegex_like_iff.2 ⟨column, source, hentry⟩)

theorem Predicate.sql_eq_error_iff {predicate : Predicate} :
    predicate.sql = .error .regexInLike ↔ predicate.MapsRegex := by
  rw [← hasRegex_iff, sql_eq]
  cases predicate.hasRegex with
  | true => simp
  | false => simp

theorem Predicate.exists_sql_eq_ok_iff {predicate : Predicate} :
    (∃ text, predicate.sql = .ok text) ↔ ¬ predicate.MapsRegex := by
  rw [← hasRegex_iff, sql_eq]
  cases predicate.hasRegex with
  | true => simp
  | false => simp

/-- A regular expression for an operand is as good as its text between slashes. -/
theorem Comparator.sql_regex (comparator : Comparator) (column source : String) :
    comparator.sql column (.regex source) =
      comparator.sql column (.text ("/" ++ source ++ "/")) := by
  cases comparator <;> rfl

/-- Only a like map refuses a regular expression, and then the whole predicate is refused. So of
the predicates that search for a regular expression those alone are refused that also have one in a
like map. A comparator takes it for its text, whatever the comparator is and wherever it stands. -/
theorem regex_operands (predicate : Predicate) :
    (predicate.sql = .error .regexInLike ↔ predicate.MapsRegex) ∧
    ((∃ text, predicate.sql = .ok text) ↔ ¬ predicate.MapsRegex) ∧
    ((predicate.sql = .error .regexInLike ↔ predicate.MapsRegex ∨ predicate.SearchesRegex) ↔
      (predicate.SearchesRegex → predicate.MapsRegex)) ∧
    ∀ (place : Place) (column : String) (earlier later : List (Comparator × Literal))
      (comparator : Comparator) (source : String),
      place.fill (.column column (.compare
        (earlier ++ (comparator, .regex source) :: later))) = predicate →
      predicate.sql = (place.fill (.column column (.compare
        (earlier ++ (comparator, .text ("/" ++ source ++ "/")) :: later)))).sql := by
  have herror := @Predicate.sql_eq_error_iff predicate
  refine ⟨herror, Predicate.exists_sql_eq_ok_iff, ?_, ?_⟩
  · rw [herror]
    constructor
    · intro h hsearches
      exact h.2 (.inr hsearches)
    · intro h
      exact ⟨.inl, fun hregex => hregex.elim id h⟩
  · rintro place column earlier later comparator source rfl
    refine Place.sql_fill_congr ?_ place
    rw [Clause.sql, Clause.sql, Condition.sql, Condition.sql]
    simp only [List.map_append, List.map_cons, comparator.sql_regex]

/-- The text of the expression is searched for, and nothing is refused. -/
theorem regex_operand_searched :
    Predicate.SearchesRegex [.column "name" (.compare [(.like, .regex "^B")])] ∧
      Predicate.sql [.column "name" (.compare [(.like, .regex "^B")])] =
        .ok "name LIKE '/^B/'" ∧
      Predicate.sql [.column "name" (.compare [(.like, .regex "^B")])] ≠ .error .regexInLike := by
  have hsql : Predicate.sql [.column "name" (.compare [(.like, .regex "^B")])] =
      .ok "name LIKE '/^B/'" :=
    rfl
  refine ⟨?_, hsql, ?_⟩
  · exact ⟨"name", [(.like, .regex "^B")], .like, "^B", ⟨.among [] [], rfl⟩, .head _, rfl⟩
  · rw [hsql]
    exact nofun

end CriteriaSql
