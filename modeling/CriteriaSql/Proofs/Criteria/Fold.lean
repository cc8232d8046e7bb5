import CriteriaSql.Criteria.Predicate

/-! Folds over predicates, and induction over their clauses. -/

namespace CriteriaSql

/-- What is made of a predicate: of its clauses together, and of each kind of clause. -/
structure Clause.Algebra (α β : Type) where
  clauses : List α → β
  any : List β → α
  all : List β → α
  like : List (String × Literal) → α
  column : String → Condition → α

variable {α β : Type} (algebra : Clause.Algebra α β)

mutual

def Clause.fold : Clause → α
  | .any branches => algebra.any (foldBranches branches)
  | .all branches => algebra.all (foldBranches branches)
  | .like patterns => algebra.like patterns
  | .column name condition => algebra.column name condition

def foldClauses : List Clause → List α
  | [] => []
  | clause :: rest => clause.fold :: foldClauses rest

def foldBranches : List (List Clause) → List β
  | [] => []
  | branch :: rest => algebra.clauses (foldClauses branch) :: foldBranches rest

end

def Predicate.fold (predicate : Predicate) : β :=
  algebra.clauses (predicate.map (Clause.fold algebra))

theorem foldClauses_eq_map (clauses : List Clause) :
    foldClauses algebra clauses = clauses.map (Clause.fold algebra) := by
  induction clauses with
  | nil => rw [foldClauses, List.map_nil]
  | cons clause rest ih => rw [foldClauses, ih, List.map_cons]

theorem foldBranches_eq_map (branches : List Predicate) :
    foldBranches algebra branches = branches.map (Predicate.fold algebra) := by
  induction branches with
  | nil => rw [foldBranches, List.map_nil]
  | cons branch rest ih => rw [foldBranches, ih, foldClauses_eq_map, List.map_cons, Predicate.fold]

@[simp] theorem Clause.fold_any (branches : List Predicate) :
    (Clause.any branches).fold algebra = algebra.any (branches.map (Predicate.fold algebra)) := by
  rw [Clause.fold, foldBranches_eq_map]

@[simp] theorem Clause.fold_all (branches : List Predicate) :
    (Clause.all branches).fold algebra = algebra.all (branches.map (Predicate.fold algebra)) := by
  rw [Clause.fold, foldBranches_eq_map]

@[simp] theorem Clause.fold_like (patterns : List (String × Literal)) :
    (Clause.like patterns).fold algebra = algebra.like patterns := by
  rw [Clause.fold]

@[simp] theorem Clause.fold_column (name : String) (condition : Condition) :
    (Clause.column name condition).fold algebra = algebra.column name condition := by
  rw [Clause.fold]

/-- Induction over clauses: what holds of every clause of every branch holds of the whole. -/
@[elab_as_elim] theorem Clause.induct {motive : Clause → Prop}
    (any : ∀ branches : List Predicate, (∀ branch ∈ branches, ∀ clause ∈ branch, motive clause) →
      motive (.any branches))
    (all : ∀ branches : List Predicate, (∀ branch ∈ branches, ∀ clause ∈ branch, motive clause) →
      motive (.all branches))
    (like : ∀ patterns, motive (.like patterns))
    (column : ∀ name condition, motive (.column name condition)) :
    ∀ clause, motive clause
  | .any branches => any branches fun branch hbranch clause hclause =>
      have := List.sizeOf_lt_of_mem hbranch
      have := List.sizeOf_lt_of_mem hclause
      Clause.induct any all like column clause
  | .all branches => all branches fun branch hbranch clause hclause =>
      have := List.sizeOf_lt_of_mem hbranch
      have := List.sizeOf_lt_of_mem hclause
      Clause.induct any all like column clause
  | .like patterns => like patterns
  | .column name condition => column name condition
termination_by clause => sizeOf clause
decreasing_by
  all_goals
    simp only [Clause.any.sizeOf_spec, Clause.all.sizeOf_spec]
    omega

/-! Maps that carry one fold over into another. -/

structure Clause.Algebra.Hom (source : Clause.Algebra α β) (target : Clause.Algebra γ δ)
    (f : α → γ) (g : β → δ) : Prop where
  clauses : ∀ parts, g (source.clauses parts) = target.clauses (parts.map f)
  any : ∀ branches, f (source.any branches) = target.any (branches.map g)
  all : ∀ branches, f (source.all branches) = target.all (branches.map g)
  like : ∀ patterns, f (source.like patterns) = target.like patterns
  column : ∀ name condition, f (source.column name condition) = target.column name condition

section Hom

variable {source : Clause.Algebra α β} {target : Clause.Algebra γ δ} {f : α → γ} {g : β → δ}

theorem Predicate.fold_hom_of_clauses (hom : source.Hom target f g) {predicate : Predicate}
    (h : ∀ clause ∈ predicate, f (clause.fold source) = clause.fold target) :
    g (predicate.fold source) = predicate.fold target := by
  rw [fold, fold, hom.clauses, List.map_map]
  congr 1
  exact List.map_congr_left h

theorem Clause.fold_hom (hom : source.Hom target f g) (clause : Clause) :
    f (clause.fold source) = clause.fold target := by
  -- Branches are alike under both kinds of brackets.
  have hbranches : ∀ branches : List Predicate,
      (∀ branch ∈ branches, ∀ clause ∈ branch, f (clause.fold source) = clause.fold target) →
      (branches.map (Predicate.fold source)).map g = branches.map (Predicate.fold target) := by
    intro branches h
    rw [List.map_map]
    exact List.map_congr_left fun branch hbranch =>
      Predicate.fold_hom_of_clauses hom (h branch hbranch)
  induction clause using Clause.induct with
  | any branches ih => rw [fold_any, fold_any, hom.any, hbranches branches ih]
  | all branches ih => rw [fold_all, fold_all, hom.all, hbranches branches ih]
  | like patterns => rw [fold_like, fold_like, hom.like]
  | column name condition => rw [fold_column, fold_column, hom.column]

theorem Predicate.fold_hom (hom : source.Hom target f g) (predicate : Predicate) :
    g (predicate.fold source) = predicate.fold target :=
  Predicate.fold_hom_of_clauses hom fun clause _ => clause.fold_hom hom

end Hom

/-! The columns that a predicate names. -/

def columnsAlgebra : Clause.Algebra (List String) (List String) where
  clauses columns := columns.flatten
  any columns := columns.flatten
  all columns := columns.flatten
  like patterns := patterns.map Prod.fst
  column name _ := [name]

def Clause.columns (clause : Clause) : List String :=
  clause.fold columnsAlgebra

def Predicate.columns (predicate : Predicate) : List String :=
  predicate.fold columnsAlgebra

section

variable {P : String → Prop}

theorem Predicate.forall_mem_columns {predicate : Predicate} :
    (∀ column ∈ predicate.columns, P column) ↔
      ∀ clause ∈ predicate, ∀ column ∈ clause.columns, P column :=
  List.forall_mem_flatMap

theorem Clause.forall_mem_columns_any {branches : List Predicate} :
    (∀ column ∈ (Clause.any branches).columns, P column) ↔
      ∀ branch ∈ branches, ∀ column ∈ branch.columns, P column := by
  rw [columns, fold_any]
  exact List.forall_mem_flatMap

theorem Clause.forall_mem_columns_all {branches : List Predicate} :
    (∀ column ∈ (Clause.all branches).columns, P column) ↔
      ∀ branch ∈ branches, ∀ column ∈ branch.columns, P column := by
  rw [columns, fold_all]
  exact List.forall_mem_flatMap

end

theorem Clause.columns_like (patterns : List (String × Literal)) :
    (Clause.like patterns).columns = patterns.map Prod.fst :=
  fold_like columnsAlgebra patterns

theorem Clause.columns_column (name : String) (condition : Condition) :
    (Clause.column name condition).columns = [name] :=
  fold_column columnsAlgebra name condition

/-- Induction over clauses all of whose columns have a property. -/
theorem Clause.induct_columns {P : String → Prop} {motive : Clause → Prop}
    (any : ∀ branches : List Predicate, (∀ branch ∈ branches, ∀ clause ∈ branch, motive clause) →
      motive (.any branches))
    (all : ∀ branches : List Predicate, (∀ branch ∈ branches, ∀ clause ∈ branch, motive clause) →
      motive (.all branches))
    (like : ∀ patterns : List (String × Literal), (∀ entry ∈ patterns, P entry.1) →
      motive (.like patterns))
    (column : ∀ name condition, P name → motive (.column name condition))
    (clause : Clause) (hcolumns : ∀ column ∈ clause.columns, P column) : motive clause := by
  induction clause using Clause.induct with
  | any branches ih =>
      have hbranches := forall_mem_columns_any.1 hcolumns
      refine any branches fun branch hbranch clause hclause => ?_
      have hclauses := Predicate.forall_mem_columns.1 (hbranches branch hbranch)
      exact ih branch hbranch clause hclause (hclauses clause hclause)
  | all branches ih =>
      have hbranches := forall_mem_columns_all.1 hcolumns
      refine all branches fun branch hbranch clause hclause => ?_
      have hclauses := Predicate.forall_mem_columns.1 (hbranches branch hbranch)
      exact ih branch hbranch clause hclause (hclauses clause hclause)
  | like patterns =>
      rw [columns_like] at hcolumns
      exact like patterns fun entry hentry => hcolumns entry.1 (List.mem_map_of_mem hentry)
  | column name condition =>
      rw [columns_column] at hcolumns
      exact column name condition (hcolumns name (List.mem_singleton_self name))

end CriteriaSql
