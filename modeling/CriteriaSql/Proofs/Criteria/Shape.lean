import CriteriaSql.Proofs.Criteria.Fold

/-!
Shapes: what is left of a predicate when the text of its values is forgotten. Columns, comparators,
the kinds of the values and all values that are no text stay.
-/

namespace CriteriaSql

/-- One and the same value for all texts, patterns, dates or pieces of JSON. -/
def Literal.shape : Literal → Literal
  | text _ => text ""
  | dateTime _ => dateTime ⟨0, 0, by decide, by decide⟩
  | regex _ => regex ""
  | json _ => json .null
  | value => value

def Condition.shape : Condition → Condition
  | equals value => equals value.shape
  | isIn values => isIn (values.map Literal.shape)
  | compare comparisons => compare (comparisons.map fun entry => (entry.1, entry.2.shape))

def shapeAlgebra : Clause.Algebra Clause Predicate where
  clauses clauses := clauses
  any := .any
  all := .all
  like patterns := .like (patterns.map fun entry => (entry.1, entry.2.shape))
  column name condition := .column name condition.shape

def Predicate.shape (predicate : Predicate) : Predicate :=
  predicate.fold shapeAlgebra

/-- What does not look at texts in like maps and in conditions sees no difference between a
predicate and its shape. -/
theorem Predicate.fold_shape {algebra : Clause.Algebra α β}
    (hlike : ∀ patterns, algebra.like (patterns.map fun entry => (entry.1, entry.2.shape)) =
      algebra.like patterns)
    (hcolumn : ∀ name condition, algebra.column name condition.shape =
      algebra.column name condition)
    (predicate : Predicate) : predicate.shape.fold algebra = predicate.fold algebra := by
  apply Predicate.fold_hom
  constructor
  · intro clauses
    rfl
  · exact Clause.fold_any algebra
  · exact Clause.fold_all algebra
  · intro patterns
    rw [← hlike patterns]
    exact Clause.fold_like algebra _
  · intro name condition
    rw [← hcolumn name condition]
    exact Clause.fold_column algebra name _

theorem Predicate.columns_shape (predicate : Predicate) :
    predicate.shape.columns = predicate.columns := by
  apply predicate.fold_shape
  · intro patterns
    show (patterns.map _).map Prod.fst = patterns.map Prod.fst
    rw [List.map_map]
    rfl
  · intro name condition
    rfl

end CriteriaSql
