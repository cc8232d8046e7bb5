import CriteriaSql.Proofs.Sql.Rendering

/-!
Places for a clause in a predicate, at any depth. Whatever clause is put there, the same text is
written around it.
-/

namespace CriteriaSql

open Sql (Piece plain written)

/-- One item among others, each written as its pieces. -/
theorem exists_intercalate_map_eq (separator : List Piece) (pieces : α → List Piece)
    (before after : List α) : ∃ first last, ∀ item,
      separator.intercalate ((before ++ item :: after).map pieces) =
        first ++ pieces item ++ last := by
  obtain ⟨first, last, hparts⟩ :=
    Text.exists_intercalate_eq separator (before.map pieces) (after.map pieces)
  refine ⟨first, last, fun item => ?_⟩
  rw [List.map_append, List.map_cons, hparts]

/-- The two kinds of clauses that have branches. -/
inductive Junction where
  | any
  | all

namespace Junction

def clause : Junction → List Predicate → Clause
  | any => .any
  | all => .all

def operator : Junction → String
  | any => " OR "
  | all => " AND "

variable (junction : Junction) (branches : List Predicate)

theorem hasRegex_clause :
    (junction.clause branches).hasRegex = branches.any Predicate.hasRegex := by
  cases junction with
  | any => exact Clause.hasRegex_any branches
  | all => exact Clause.hasRegex_all branches

theorem pieces_clause :
    (junction.clause branches).pieces = plain "( " ++
      (plain junction.operator).intercalate (branches.map Predicate.pieces) ++ plain " )" := by
  cases junction with
  | any => exact Clause.pieces_any branches
  | all => exact Clause.pieces_all branches

theorem sql_clause :
    (junction.clause branches).sql = do
      return "( " ++ Text.separated junction.operator (← branches.mapM Predicate.sql) ++ " )" := by
  cases junction with
  | any => rw [clause, Clause.sql, branchSqls_eq_mapM, operator]
  | all => rw [clause, Clause.sql, branchSqls_eq_mapM, operator]

end Junction

/-- A place for one clause, all else of the predicate being given: among other clauses, or in a
branch of one of them. -/
inductive Place where
  | among (before after : Predicate)
  | inside (before : Predicate) (junction : Junction) (earlier : List Predicate) (place : Place)
      (later : List Predicate) (after : Predicate)

namespace Place

def fill (clause : Clause) : Place → Predicate
  | among before after => before ++ clause :: after
  | inside before junction earlier place later after =>
      before ++ junction.clause (earlier ++ place.fill clause :: later) :: after

/-- Some like map elsewhere in the predicate holds a regular expression. -/
def hasRegex : Place → Bool
  | among before after => Predicate.hasRegex before || Predicate.hasRegex after
  | inside before _ earlier place later after =>
      Predicate.hasRegex before || (earlier.any Predicate.hasRegex || place.hasRegex ||
        later.any Predicate.hasRegex) || Predicate.hasRegex after

theorem hasRegex_fill (place : Place) (clause : Clause) :
    (place.fill clause).hasRegex = (place.hasRegex || clause.hasRegex) := by
  induction place with
  | among before after =>
      rw [fill, hasRegex, Predicate.hasRegex_eq, Predicate.hasRegex_eq, Predicate.hasRegex_eq,
        List.any_append, List.any_cons]
      ac_rfl
  | inside before junction earlier place later after ih =>
      rw [fill, hasRegex, Predicate.hasRegex_eq, Predicate.hasRegex_eq, Predicate.hasRegex_eq,
        List.any_append, List.any_cons, junction.hasRegex_clause, List.any_append,
        List.any_cons, ih]
      ac_rfl

theorem exists_pieces_fill_eq (place : Place) : ∃ before after : List Piece, ∀ clause,
    (place.fill clause).pieces = before ++ clause.pieces ++ after := by
  have hclauses : ∀ before after : Predicate, ∃ first last : List Piece, ∀ clause,
      Predicate.pieces (before ++ clause :: after) = first ++ clause.pieces ++ last :=
    exists_intercalate_map_eq (plain " AND ") Clause.pieces
  induction place with
  | among before after => exact hclauses before after
  | inside before junction earlier place later after ih =>
      obtain ⟨inner, inner', hplace⟩ := ih
      obtain ⟨first, last, hbranches⟩ :=
        exists_intercalate_map_eq (plain junction.operator) Predicate.pieces earlier later
      obtain ⟨outer, outer', houter⟩ := hclauses before after
      -- Around the clause comes what is in its branch, then the other branches, then the rest.
      refine ⟨outer ++ plain "( " ++ first ++ inner, inner' ++ last ++ plain " )" ++ outer',
        fun clause => ?_⟩
      rw [fill, houter, junction.pieces_clause, hbranches, hplace]
      simp only [List.append_assoc]

theorem sql_fill_of_hasRegex {place : Place} (h : place.hasRegex = true) (clause : Clause) :
    (place.fill clause).sql = .error .regexInLike := by
  have hfill : (place.fill clause).hasRegex = true := by
    rw [hasRegex_fill, h, Bool.true_or]
  rw [Predicate.sql_eq, if_pos hfill]

theorem exists_sql_fill_eq {place : Place} (h : place.hasRegex = false) :
    ∃ before after : String, ∀ clause text, clause.sql = .ok text →
      (place.fill clause).sql = .ok (before ++ text ++ after) := by
  obtain ⟨before, after, hpieces⟩ := place.exists_pieces_fill_eq
  refine ⟨String.ofList (written before), String.ofList (written after),
    fun clause text htext => ?_⟩
  rw [Clause.sql_eq] at htext
  cases hclause : clause.hasRegex with
  | true =>
      rw [hclause] at htext
      cases htext
  | false =>
      rw [hclause] at htext
      obtain rfl := Except.ok.inj htext
      rw [Predicate.sql_eq_ok_iff, hasRegex_fill, h, hclause, hpieces]
      refine ⟨rfl, ?_⟩
      rw [← String.toList_inj]
      simp

/-- Clauses that are rendered alike can stand for one another. -/
theorem sql_fill_congr {clause other : Clause} (h : clause.sql = other.sql) (place : Place) :
    (place.fill clause).sql = (place.fill other).sql := by
  have hclauses : ∀ {c d : Clause}, c.sql = d.sql → ∀ before after : Predicate,
      Predicate.sql (before ++ c :: after) = Predicate.sql (before ++ d :: after) := by
    intro c d hcd before after
    simp only [Predicate.sql, clauseSqls_eq_mapM, List.mapM_append, List.mapM_cons, hcd]
  induction place with
  | among before after => exact hclauses h before after
  | inside before junction earlier place later after ih =>
      refine hclauses ?_ before after
      rw [junction.sql_clause, junction.sql_clause]
      simp only [List.mapM_append, List.mapM_cons, ih]

end Place

namespace Predicate

/-- The clause stands somewhere in the predicate, at any depth. -/
def HasClause (predicate : Predicate) (clause : Clause) : Prop :=
  ∃ place : Place, place.fill clause = predicate

variable {predicate branch : Predicate} {clause : Clause}

theorem hasClause_of_mem (h : clause ∈ predicate) : predicate.HasClause clause := by
  obtain ⟨before, after, rfl⟩ := List.append_of_mem h
  exact ⟨.among before after, rfl⟩

theorem HasClause.of_branch (h : branch.HasClause clause) {junction : Junction}
    {branches : List Predicate} (hbranch : branch ∈ branches)
    (hjunction : junction.clause branches ∈ predicate) : predicate.HasClause clause := by
  obtain ⟨place, rfl⟩ := h
  obtain ⟨earlier, later, rfl⟩ := List.append_of_mem hbranch
  obtain ⟨before, after, rfl⟩ := List.append_of_mem hjunction
  exact ⟨.inside before junction earlier place later after, rfl⟩

theorem HasClause.hasRegex (h : predicate.HasClause clause) (hclause : clause.hasRegex = true) :
    predicate.hasRegex = true := by
  obtain ⟨place, rfl⟩ := h
  rw [Place.hasRegex_fill, hclause, Bool.or_true]

end Predicate

end CriteriaSql
