import CriteriaSql.Proofs.Sql.Lexing

/-!
Conditions in which nothing is empty are conditions of the grammar, and no nesting changes what
they mean: the tree that is read has the truth value of the predicate it was rendered from.
-/

namespace CriteriaSql

open Sql (Atom Truth)

/-! Predicates in which no list is empty. -/

def Condition.isFilled : Condition → Bool
  | equals _ => true
  | isIn values => !values.isEmpty
  | compare comparisons => !comparisons.isEmpty

def filledAlgebra : Clause.Algebra Bool Bool where
  clauses found := !found.isEmpty && found.all id
  any found := !found.isEmpty && found.all id
  all found := !found.isEmpty && found.all id
  like patterns := !patterns.isEmpty
  column _ condition := condition.isFilled

def Clause.isFilled (clause : Clause) : Bool :=
  clause.fold filledAlgebra

def Predicate.isFilled (predicate : Predicate) : Bool :=
  predicate.fold filledAlgebra

theorem isFilled_list {f : α → Bool} {items : List α} :
    (!(items.map f).isEmpty && (items.map f).all id) = true ↔
      items ≠ [] ∧ ∀ item ∈ items, f item = true := by
  simp [List.all_map]

theorem Predicate.isFilled_iff {predicate : Predicate} :
    predicate.isFilled ↔ predicate ≠ [] ∧ ∀ clause ∈ predicate, clause.isFilled :=
  isFilled_list

theorem Clause.isFilled_any_iff {branches : List Predicate} :
    (Clause.any branches).isFilled ↔ branches ≠ [] ∧ ∀ branch ∈ branches, branch.isFilled := by
  rw [isFilled, fold_any]
  exact isFilled_list

theorem Clause.isFilled_all_iff {branches : List Predicate} :
    (Clause.all branches).isFilled ↔ branches ≠ [] ∧ ∀ branch ∈ branches, branch.isFilled := by
  rw [isFilled, fold_all]
  exact isFilled_list

theorem Clause.isFilled_like_iff {patterns : List (String × Literal)} :
    (Clause.like patterns).isFilled ↔ patterns ≠ [] := by
  rw [isFilled, fold_like]
  simp [filledAlgebra]

theorem Clause.isFilled_column (name : String) (condition : Condition) :
    (Clause.column name condition).isFilled = condition.isFilled :=
  Clause.fold_column filledAlgebra name condition

/-! What a predicate means. -/

section

variable (assignment : Atom → Truth)

def Condition.truth (column : String) : Condition → Truth
  | equals value => assignment (equalityAtom column value)
  | isIn values =>
      Truth.any (values.map fun value => assignment (.compare column .equal value.value))
  | compare comparisons =>
      Truth.all (comparisons.map fun entry => assignment (entry.1.atom column entry.2))

def truthAlgebra : Clause.Algebra Truth Truth where
  clauses := Truth.all
  any := Truth.any
  all := Truth.all
  like patterns := Truth.all (patterns.map fun entry => assignment (likeAtom entry.1 entry.2))
  column name condition := condition.truth assignment name

def Clause.truth (clause : Clause) : Truth :=
  clause.fold (truthAlgebra assignment)

def Predicate.truth (predicate : Predicate) : Truth :=
  predicate.fold (truthAlgebra assignment)

end

/-! Terms, one after another. -/

namespace Sql

def BooleanTerm.append : BooleanTerm → BooleanTerm → BooleanTerm
  | .factor first, other => .and first other
  | .and first rest, other => .and first (rest.append other)

theorem BooleanTerm.tokens_append (term other : BooleanTerm) :
    (term.append other).tokens = term.tokens ++ .word "AND" :: other.tokens := by
  match term with
  | .factor first => rw [append, tokens, tokens]
  | .and first rest =>
      rw [append, tokens, tokens, rest.tokens_append other, List.append_assoc, List.cons_append]

theorem BooleanTerm.truth_append (assignment : Atom → Truth) (term other : BooleanTerm) :
    (term.append other).truth assignment =
      (term.truth assignment).and (other.truth assignment) := by
  match term with
  | .factor first => rw [append, truth, truth]
  | .and first rest =>
      rw [append, truth, truth, rest.truth_append assignment other, Truth.and_assoc]

/-- These are the tokens of a term, and this is its truth value. -/
def IsTerm (tokens : List Token) (truth : (Atom → Truth) → Truth) : Prop :=
  ∃ term : BooleanTerm,
    term.tokens = tokens ∧ ∀ assignment, term.truth assignment = truth assignment

/-- AND between terms makes one term. -/
theorem isTerm_conjunction {tokens : α → List Token} {truth : (Atom → Truth) → α → Truth}
    {items : List α} (hne : items ≠ [])
    (h : ∀ item ∈ items, IsTerm (tokens item) fun assignment => truth assignment item) :
    IsTerm (conjunction (items.map tokens)) fun assignment =>
      Truth.all (items.map (truth assignment)) := by
  induction items with
  | nil => exact absurd rfl hne
  | cons item rest ih =>
      obtain ⟨term, htokens, htruth⟩ := h item List.mem_cons_self
      cases rest with
      | nil =>
          -- One item alone is joined with nothing, and so is its truth value.
          refine ⟨term, ?_, fun assignment => ?_⟩
          · rw [htokens]
            exact List.intercalate_singleton.symm
          · rw [htruth]
            exact (Truth.and_yes _).symm
      | cons next others =>
          obtain ⟨other, hothers, hothersTruth⟩ :=
            ih (List.cons_ne_nil _ _) fun i hi => h i (List.mem_cons_of_mem _ hi)
          refine ⟨term.append other, ?_, fun assignment => ?_⟩
          · rw [term.tokens_append, htokens, hothers]
            simp [conjunction, List.intercalate_cons_cons]
          · rw [term.truth_append, htruth, hothersTruth]
            rfl

theorem isTerm_bracketed {tokens : List Token} {truth : (Atom → Truth) → Truth}
    (h : IsTerm tokens truth) : IsTerm (bracketedTokens tokens) truth := by
  obtain ⟨term, htokens, htruth⟩ := h
  refine ⟨.factor (.group (.term term)), ?_, fun assignment => ?_⟩
  · rw [BooleanTerm.tokens, BooleanFactor.tokens, SearchCondition.tokens, htokens]
    rfl
  · rw [BooleanTerm.truth, BooleanFactor.truth, SearchCondition.truth, htruth]

/-- OR between terms makes a condition, and brackets make that a term again. -/
theorem isTerm_disjunction {tokens : α → List Token} {truth : (Atom → Truth) → α → Truth}
    {items : List α} (hne : items ≠ [])
    (h : ∀ item ∈ items, IsTerm (tokens item) fun assignment => truth assignment item) :
    IsTerm (bracketedTokens (disjunction (items.map tokens))) fun assignment =>
      Truth.any (items.map (truth assignment)) := by
  -- It is the brackets that make a factor of the condition, so they come last.
  have hcondition : ∃ condition : SearchCondition,
      condition.tokens = disjunction (items.map tokens) ∧
        ∀ assignment, condition.truth assignment = Truth.any (items.map (truth assignment)) := by
    induction items with
    | nil => exact absurd rfl hne
    | cons item rest ih =>
        obtain ⟨term, htokens, htruth⟩ := h item List.mem_cons_self
        cases rest with
        | nil =>
            refine ⟨.term term, ?_, fun assignment => ?_⟩
            · rw [SearchCondition.tokens, htokens]
              exact List.intercalate_singleton.symm
            · rw [SearchCondition.truth, htruth]
              exact (Truth.or_no _).symm
        | cons next others =>
            obtain ⟨condition, hothers, hothersTruth⟩ :=
              ih (List.cons_ne_nil _ _) fun i hi => h i (List.mem_cons_of_mem _ hi)
            refine ⟨.or term condition, ?_, fun assignment => ?_⟩
            · rw [SearchCondition.tokens, htokens, hothers]
              simp [disjunction, List.intercalate_cons_cons]
            · rw [SearchCondition.truth, htruth, hothersTruth]
              rfl
  obtain ⟨condition, htokens, htruth⟩ := hcondition
  refine ⟨.factor (.group condition), ?_, fun assignment => ?_⟩
  · rw [BooleanTerm.tokens, BooleanFactor.tokens, htokens]
    rfl
  · rw [BooleanTerm.truth, BooleanFactor.truth, htruth]

/-! Comparisons. -/

def Atom.column : Atom → String
  | compare column _ _ | isNull column | isNotNull column => column

theorem isTerm_atom {atom : Atom} (h : isName atom.column) :
    IsTerm atom.tokens fun assignment => assignment atom := by
  -- Each atom is one comparison, and that is a term by itself.
  have hcomparison : ∃ comparison : Comparison, comparison.tokens = atom.tokens ∧
      ∀ assignment, comparison.truth assignment = assignment atom := by
    cases atom with
    | compare column operator value =>
        exact ⟨.compare ⟨column, h⟩ operator value, rfl, fun _ => rfl⟩
    | isNull column => exact ⟨.isNull ⟨column, h⟩, rfl, fun _ => rfl⟩
    | isNotNull column => exact ⟨.isNotNull ⟨column, h⟩, rfl, fun _ => rfl⟩
  obtain ⟨comparison, htokens, htruth⟩ := hcomparison
  refine ⟨.factor (.comparison comparison), ?_, fun assignment => ?_⟩
  · rw [BooleanTerm.tokens, BooleanFactor.tokens, htokens]
  · rw [BooleanTerm.truth, BooleanFactor.truth, htruth]

theorem isTerm_inList {column : String} (hcolumn : isName column) {values : List Value}
    (hne : values ≠ []) : IsTerm (inList column values) fun assignment =>
      Truth.any (values.map fun value => assignment (.compare column .equal value)) := by
  obtain ⟨first, rest, rfl⟩ := List.exists_cons_of_ne_nil hne
  refine ⟨.factor (.comparison (.isIn ⟨column, hcolumn⟩ first rest)), ?_, fun _ => ?_⟩
  · rw [BooleanTerm.tokens, BooleanFactor.tokens, inList, List.map_cons, intercalate_eq_following]
    simp [Comparison.tokens, Name.token]
  · rw [BooleanTerm.truth, BooleanFactor.truth]
    rfl

end Sql

theorem column_equalityAtom (column : String) (value : Literal) :
    (equalityAtom column value).column = column := by
  unfold equalityAtom
  split <;> rfl

theorem Comparator.column_atom (comparator : Comparator) (column : String) (value : Literal) :
    (comparator.atom column value).column = column := by
  cases comparator with
  | not =>
      by_cases hnull : value.isNull = true
      · rw [atom, if_pos hnull]
        rfl
      · rw [atom, if_neg hnull]
        rfl
  | lessThan | lessThanOrEqual | greaterThan | greaterThanOrEqual | like | contains | startsWith
    | endsWith => rfl

open Sql (IsTerm)

theorem Condition.isTerm {column : String} (hcolumn : Sql.isName column) {condition : Condition}
    (hfilled : condition.isFilled) :
    IsTerm (condition.tokens column) fun assignment => condition.truth assignment column := by
  cases condition with
  | equals value =>
      apply Sql.isTerm_atom
      rwa [column_equalityAtom]
  | isIn values =>
      have hne : values.map Literal.value ≠ [] := by simpa [isFilled] using hfilled
      have hlist := Sql.isTerm_inList hcolumn hne
      simp only [List.map_map] at hlist
      exact hlist
  | compare comparisons =>
      apply Sql.isTerm_conjunction
      · simpa [isFilled] using hfilled
      · intro entry _
        apply Sql.isTerm_atom
        rwa [entry.1.column_atom]

theorem Predicate.isTerm_of_clauses {predicate : Predicate} (hfilled : predicate.isFilled)
    (h : ∀ clause ∈ predicate, clause.isFilled →
      IsTerm clause.tokens fun assignment => clause.truth assignment) :
    IsTerm predicate.tokens fun assignment => predicate.truth assignment := by
  rw [isFilled_iff] at hfilled
  exact Sql.isTerm_conjunction hfilled.1 fun clause hclause =>
    h clause hclause (hfilled.2 clause hclause)

/-- A filled clause is one term of the grammar, with the meaning of the clause. -/
theorem Clause.isTerm {clause : Clause} (hcolumns : ∀ column ∈ clause.columns, Sql.isName column)
    (hfilled : clause.isFilled) :
    IsTerm clause.tokens fun assignment => clause.truth assignment := by
  refine Clause.induct_columns (motive := fun clause => clause.isFilled →
    IsTerm clause.tokens fun assignment => clause.truth assignment) ?_ ?_ ?_ ?_ clause hcolumns
    hfilled
  · intro branches ih hfilled
    rw [isFilled_any_iff] at hfilled
    simp only [tokens, truth, fold_any]
    exact Sql.isTerm_disjunction hfilled.1 fun branch hbranch =>
      Predicate.isTerm_of_clauses (hfilled.2 branch hbranch) (ih branch hbranch)
  · intro branches ih hfilled
    rw [isFilled_all_iff] at hfilled
    simp only [tokens, truth, fold_all]
    apply Sql.isTerm_bracketed
    exact Sql.isTerm_conjunction hfilled.1 fun branch hbranch =>
      Predicate.isTerm_of_clauses (hfilled.2 branch hbranch) (ih branch hbranch)
  · intro patterns hpatterns hfilled
    rw [isFilled_like_iff] at hfilled
    simp only [tokens, truth, fold_like]
    exact Sql.isTerm_conjunction hfilled fun entry hentry =>
      Sql.isTerm_atom (hpatterns entry hentry)
  · intro name condition hname hfilled
    rw [isFilled_column] at hfilled
    simp only [tokens, truth, fold_column]
    exact Condition.isTerm hname hfilled

theorem Predicate.isTerm {predicate : Predicate}
    (hcolumns : ∀ column ∈ predicate.columns, Sql.isName column) (hfilled : predicate.isFilled) :
    IsTerm predicate.tokens fun assignment => predicate.truth assignment := by
  apply Predicate.isTerm_of_clauses hfilled
  intro clause hclause
  exact Clause.isTerm (Predicate.forall_mem_columns.1 hcolumns clause hclause)

end CriteriaSql
