import CriteriaSql.Criteria.Basic
import CriteriaSql.Proofs.Criteria.Fold
import Mathlib.Data.List.Forall2

/-!
Equality by meaning. Values that are the same are equal, but for the sign of a zero and for what
does not count in JSON. Clauses that are the same are of one kind, and the same part by part.
-/

namespace CriteriaSql

/-- A mantissa of zero goes with the least exponent only. -/
theorem Double.finite_zero {negative : Bool} {exponent : Int} (normal : Normal 0 exponent) :
    finite negative 0 exponent normal = zero negative := by
  have hexponent : exponent = -1074 := normal.2.1.resolve_left (by decide)
  subst hexponent
  rfl

theorem Double.eq_or_zero {x y : Double} (h : x.same y = true) :
    x = y ∨ ∃ negative, x = zero negative ∧ y = zero !negative := by
  cases x with
  | nan => cases h
  | infinite a =>
      cases y with
      | infinite b => exact .inl (congrArg infinite (beq_iff_eq.1 h))
      | nan | finite => cases h
  | finite a m p hm =>
      cases y with
      | nan | infinite => cases h
      | finite b n q hn =>
          simp only [same, Bool.or_eq_true, Bool.and_eq_true, beq_iff_eq] at h
          rcases h with ⟨rfl, rfl⟩ | ⟨⟨rfl, rfl⟩, rfl⟩
          · rw [finite_zero hm, finite_zero hn]
            by_cases hsign : a = b
            · exact .inl (congrArg zero hsign)
            · exact .inr ⟨a, rfl, congrArg zero (Bool.eq_not_of_ne (Ne.symm hsign))⟩
          · exact .inl rfl

/-- What has the same meaning though it is not the same: zero with and without its sign, and JSON
with its members in another order or with such a zero in it. -/
inductive Literal.Variant : Literal → Literal → Prop where
  | zero (negative : Bool) : Variant (.float (.zero negative)) (.float (.zero !negative))
  | json {a b : Json} (hsame : a.same b = true) (hne : a ≠ b) : Variant (.json a) (.json b)

theorem Literal.eq_or_variant {v w : Literal} (h : v.same w = true) : v = w ∨ v.Variant w := by
  unfold same at h
  split at h
  case h_1 => exact .inl rfl
  case h_4 x y =>
    rcases Double.eq_or_zero h with rfl | ⟨negative, rfl, rfl⟩
    · exact .inl rfl
    · exact .inr (.zero negative)
  case h_8 a b =>
    by_cases hne : a = b
    · exact .inl (congrArg json hne)
    · exact .inr (.json h hne)
  case h_9 => cases h
  all_goals exact .inl (by rw [beq_iff_eq.1 h])

/-! Lists are the same item by item. -/

theorem sameList_iff {same : α → β → Bool} {as : List α} {bs : List β} :
    sameList same as bs = true ↔ List.Forall₂ (fun a b => same a b = true) as bs := by
  induction as generalizing bs with
  | nil => cases bs <;> simp [sameList]
  | cons a as ih => cases bs <;> simp [sameList, ih]

theorem Predicate.same_iff {p q : Predicate} :
    Predicate.same p q = true ↔ List.Forall₂ (fun a b => Clause.same a b = true) p q := by
  induction p generalizing q with
  | nil => cases q <;> simp [same]
  | cons a as ih => cases q <;> simp [same, ih]

theorem sameBranches_iff {ps qs : List Predicate} :
    sameBranches ps qs = true ↔ List.Forall₂ (fun p q => Predicate.same p q = true) ps qs := by
  induction ps generalizing qs with
  | nil => cases qs <;> simp [sameBranches]
  | cons p ps ih => cases qs <;> simp [sameBranches, ih]

/-- Values are the same together with the columns or comparators that they go with. -/
theorem sameEntries_iff [DecidableEq α] {as bs : List (α × Literal)} :
    sameList (fun a b => a.1 == b.1 && a.2.same b.2) as bs = true ↔
      List.Forall₂ (fun a b => a.1 = b.1 ∧ a.2.same b.2 = true) as bs := by
  simp only [sameList_iff, Bool.and_eq_true, beq_iff_eq]

/-- Induction over two clauses that are the same: what holds of all the clauses of their branches,
one by one, holds of the two. -/
theorem Clause.same_induct {motive : Clause → Clause → Prop}
    (any : ∀ ps qs : List Predicate, List.Forall₂ (List.Forall₂ motive) ps qs →
      motive (.any ps) (.any qs))
    (all : ∀ ps qs : List Predicate, List.Forall₂ (List.Forall₂ motive) ps qs →
      motive (.all ps) (.all qs))
    (like : ∀ ps qs, List.Forall₂ (fun a b => a.1 = b.1 ∧ a.2.same b.2 = true) ps qs →
      motive (.like ps) (.like qs))
    (column : ∀ name p q, Condition.same p q = true → motive (.column name p) (.column name q))
    {a b : Clause} (h : a.same b = true) : motive a b := by
  -- The branches of the one are paired with those of the other, and so are their clauses.
  have hbranches : ∀ ps : List Predicate,
      (∀ p ∈ ps, ∀ clause ∈ p, ∀ other, clause.same other = true → motive clause other) →
      ∀ qs, sameBranches ps qs = true → List.Forall₂ (List.Forall₂ motive) ps qs := by
    intro ps ih qs h
    have hpairs := (List.forall₂_and_left ps qs).2 ⟨ih, sameBranches_iff.1 h⟩
    refine hpairs.imp fun p q hpq => ?_
    have hclauses := (List.forall₂_and_left p q).2 ⟨hpq.1, Predicate.same_iff.1 hpq.2⟩
    exact hclauses.imp fun clause other hsame => hsame.1 other hsame.2
  induction a using Clause.induct generalizing b with
  | any ps ih =>
      cases b with
      | any qs => exact any ps qs (hbranches ps (fun p hp c hc _ => ih p hp c hc) qs h)
      | all | like | column => cases h
  | all ps ih =>
      cases b with
      | all qs => exact all ps qs (hbranches ps (fun p hp c hc _ => ih p hp c hc) qs h)
      | any | like | column => cases h
  | like ps =>
      cases b with
      | like qs => exact like ps qs (sameEntries_iff.1 h)
      | any | all | column => cases h
  | column name p =>
      cases b with
      | column other q =>
          rw [same, Bool.and_eq_true, beq_iff_eq] at h
          obtain ⟨rfl, hsame⟩ := h
          exact column name p q hsame
      | any | all | like => cases h

end CriteriaSql
