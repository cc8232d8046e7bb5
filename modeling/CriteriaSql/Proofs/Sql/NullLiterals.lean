import CriteriaSql.Proofs.Sql.EqualCriteria
import CriteriaSql.Proofs.Sql.RegexOperands
import CriteriaSql.Statement.Basic

/-!
Values that are written as the word for null: null itself, and the numbers that have no decimal
form. Only null itself is told apart where a column is held against a value, and the comparators
that search take the word for a text.
-/

namespace CriteriaSql

open Sql (Piece isNumeral)

namespace Literal

variable {value : Literal}

theorem content?_of_prepared_eq_null (h : value.prepared = "NULL") : value.content? = none := by
  cases hcontent : value.content? with
  | none => rfl
  | some content =>
      -- With quotes around it the text would begin with one.
      have hchars := sql_of_content? hcontent
      rw [← prepared_eq_sql, h] at hchars
      simp [Piece.chars] at hchars

theorem pattern_of_prepared_eq_null (h : value.prepared = "NULL") :
    value.pattern = "NULL".toList := by
  rw [pattern, content?_of_prepared_eq_null h, Option.getD_none, ← prepared_eq_sql, h]

/-- Numerals and texts between quotes are never the word for null. -/
theorem isNull_eq_false_iff (h : value.prepared = "NULL") :
    value.isNull = false ↔ ∃ x, value = .float x ∧ x.isFinite = false := by
  have hnumeral : ∀ {s : String}, isNumeral s.toList → s ≠ "NULL" := by
    rintro s hs rfl
    exact absurd hs (by decide)
  constructor
  · intro hnull
    cases value with
    | null => cases hnull
    | bool b => cases b <;> exact absurd h (by decide)
    | int n => exact absurd h (hnumeral (Sql.isNumeral_intToString n))
    | float x =>
        refine ⟨x, rfl, ?_⟩
        cases hx : x.isFinite with
        | false => rfl
        | true =>
            rw [prepared_eq_sql, sql, if_pos hx] at h
            exact absurd h (hnumeral (Sql.isNumeral_float hx))
    | text _ | dateTime _ | regex _ | json _ => cases content?_of_prepared_eq_null h
  · rintro ⟨x, rfl, -⟩
    rfl

end Literal

/-! Conditions on a value that is written as the word for null. -/

section Conditions

variable {value : Literal} (h : value.prepared = "NULL") (column : String)

include h

theorem equality_of_prepared_eq_null :
    equality column value = column ++ if value.isNull then " IS NULL" else "=NULL" := by
  unfold equality
  rw [h]
  cases value.isNull with
  | true => rfl
  | false => exact String.append_assoc

theorem Comparator.not_of_prepared_eq_null :
    Comparator.not.sql column value =
      column ++ if value.isNull then " IS NOT NULL" else "<>NULL" := by
  unfold Comparator.sql
  rw [h]
  cases value.isNull with
  | true => rfl
  | false => exact String.append_assoc

end Conditions

/-- What stands between the quotes of a pattern is all that the value adds to it. -/
theorem wildcardSql_eq_iff {column before after : String} {v w : Literal} :
    wildcardSql column before v after = wildcardSql column before w after ↔
      v.pattern = w.pattern := by
  have hdoubled : v.pattern.flatMap Piece.doubled = w.pattern.flatMap Piece.doubled ↔
      v.pattern = w.pattern := by
    have hliteral := @Sql.literal_chars_eq_iff v.pattern w.pattern
    simpa [Piece.chars] using hliteral
  unfold wildcardSql
  rw [← String.toList_inj, ← hdoubled]
  simp [Literal.strip_prepared]

theorem Comparator.exists_wildcardSql_eq {comparator : Comparator}
    (h : comparator.isSearch = true) :
    ∃ before after : String, ∀ column value,
      comparator.sql column value = wildcardSql column before value after := by
  cases comparator with
  | like => exact ⟨"", "", fun _ _ => rfl⟩
  | contains => exact ⟨"%", "%", fun _ _ => rfl⟩
  | startsWith => exact ⟨"", "%", fun _ _ => rfl⟩
  | endsWith => exact ⟨"%", "", fun _ _ => rfl⟩
  | lessThan | lessThanOrEqual | greaterThan | greaterThanOrEqual | not => cases h

/-- A search for null is the search for one text, the word for null. -/
theorem Comparator.sql_eq_sql_text_iff {comparator : Comparator}
    (hsearch : comparator.isSearch = true) {value : Literal} (h : value.prepared = "NULL")
    (column s : String) :
    comparator.sql column value = comparator.sql column (.text s) ↔ s = "NULL" := by
  obtain ⟨before, after, hsql⟩ := exists_wildcardSql_eq hsearch
  have htext : (Literal.text s).pattern = s.toList.map blanked := rfl
  rw [hsql, hsql, wildcardSql_eq_iff, Literal.pattern_of_prepared_eq_null h, htext]
  constructor
  · intro heq
    exact String.toList_inj.1 (eq_of_map_blanked heq.symm (by decide))
  · rintro rfl
    decide

/-! Where a column is held against a value. -/

/-- A place for a column and its value, all else being given: in an equality or a comparison of a
predicate, or in the conditions that are made of a row. -/
inductive Site where
  | equality (place : Place)
  | comparison (place : Place) (earlier later : List (Comparator × Literal))
      (comparator : Comparator)
  | row (others : Values)

namespace Site

def sql (column : String) (value : Literal) : Site → Except Fault String
  | equality place => (place.fill (.column column (.equals value))).sql
  | comparison place earlier later comparator =>
      (place.fill (.column column (.compare (earlier ++ (comparator, value) :: later)))).sql
  | row others => .ok (Values.criteriaSql (others.insert column value))

/-- The condition that the value is in. -/
def condition (column : String) (value : Literal) : Site → String
  | equality _ | row _ => CriteriaSql.equality column value
  | comparison _ _ _ comparator => comparator.sql column value

/-- In a predicate that is not refused for a regular expression elsewhere, the condition stands in
the same text whatever the value is. -/
theorem exists_sql_eq (site : Site) (column : String) :
    (∀ value, site.sql column value = .error .regexInLike) ∨
      ∃ before after : String, ∀ value,
        site.sql column value = .ok (before ++ site.condition column value ++ after) := by
  cases site with
  | equality place =>
      cases hregex : place.hasRegex with
      | true => exact .inl fun value => Place.sql_fill_of_hasRegex hregex _
      | false =>
          obtain ⟨before, after, hfill⟩ := Place.exists_sql_fill_eq hregex
          exact .inr ⟨before, after, fun value => hfill _ _ rfl⟩
  | comparison place earlier later comparator =>
      cases hregex : place.hasRegex with
      | true => exact .inl fun value => Place.sql_fill_of_hasRegex hregex _
      | false =>
          obtain ⟨before, after, hfill⟩ := Place.exists_sql_fill_eq hregex
          -- Two frames: the comparisons beside this one, and the predicate around them.
          obtain ⟨first, last, hparts⟩ := Text.exists_separated_eq " AND "
            (fun entry : Comparator × Literal => entry.1.sql column entry.2) earlier later
          refine .inr ⟨before ++ first, last ++ after, fun value => ?_⟩
          rw [sql, hfill _ _ rfl, Condition.sql, hparts, condition]
          simp only [String.append_assoc]
  | row others =>
      obtain ⟨earlier, later, hentries⟩ := OrderedMap.exists_entries_insert_eq others column
      obtain ⟨first, last, hparts⟩ := Text.exists_separated_eq " AND "
        (fun entry : String × Literal => CriteriaSql.equality entry.1 entry.2) earlier later
      refine .inr ⟨first, last, fun value => ?_⟩
      rw [sql, Values.criteriaSql, hentries, hparts, condition]

end Site

/-- A value that is written as the word for null is null or a number without a decimal form.
An equality on it and its negation test for null in the first case alone; in the second the word is
an operand. In a search the word is always taken for the text. All this is so wherever the value
stands. -/
theorem null_literals {value : Literal} (h : value.prepared = "NULL") (column : String) :
    (value.isNull = false ↔ ∃ x, value = .float x ∧ x.isFinite = false) ∧
    equality column value = column ++ (if value.isNull then " IS NULL" else "=NULL") ∧
    Comparator.not.sql column value =
      column ++ (if value.isNull then " IS NOT NULL" else "<>NULL") ∧
    (∀ (comparator : Comparator) (s : String), comparator.isSearch = true →
      (comparator.sql column value = comparator.sql column (.text s) ↔ s = "NULL")) ∧
    ∀ site : Site, (∀ other, site.sql column other = .error .regexInLike) ∨
      ∃ before after : String, ∀ other,
        site.sql column other = .ok (before ++ site.condition column other ++ after) := by
  refine ⟨Literal.isNull_eq_false_iff h, equality_of_prepared_eq_null h column,
    Comparator.not_of_prepared_eq_null h column, ?_, ?_⟩
  · intro comparator s hsearch
    exact Comparator.sql_eq_sql_text_iff hsearch h column s
  · intro site
    exact site.exists_sql_eq column

/-- Not-a-number is one of the numbers without a decimal form. -/
theorem null_literals_nan :
    (Literal.float .nan).prepared = "NULL" ∧
      equality "a" (.float .nan) = "a" ++ "=NULL" :=
  ⟨by decide, (null_literals (by decide) "a").2.1⟩

/-- The word for null is an operand, and is searched for as a text. -/
theorem null_literals_compared :
    (Literal.float .nan).prepared = "NULL" ∧
      Predicate.sql (Predicate.equals [] "a" (.float .nan)) = .ok "a=NULL" ∧
      Predicate.sql (Predicate.equals [] "a" (.float .nan)) ≠ .ok "a IS NULL" ∧
      Comparator.contains.sql "a" .null = Comparator.contains.sql "a" (.text "NULL") := by
  have hsql : Predicate.sql (Predicate.equals [] "a" (.float .nan)) = .ok "a=NULL" := rfl
  refine ⟨by decide, hsql, ?_, by decide⟩
  rw [hsql, Ne, Except.ok.injEq]
  decide

end CriteriaSql
