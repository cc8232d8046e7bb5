import CriteriaSql.Proofs.Criteria.Fold
import CriteriaSql.Proofs.Result

/-!
Folds over maps of attributes as they are written in JSON, and how they agree with folds over the
predicates that the maps are read as.
-/

namespace CriteriaSql

/-- What is made of a map: of its members together, and of each kind of member. An array counts as
branches under `or` and `and` alone, in whatever mixture of cases these are written. -/
structure Json.Algebra (α β : Type) where
  members : List α → β
  /-- No object stands where there should be a map. -/
  noMap : β
  any : List β → α
  all : List β → α
  isIn : String → List Json → α
  /-- The value is no array. -/
  single : String → Json → α

variable {α β : Type} (algebra : Json.Algebra α β)

mutual

def Json.foldMap : Json → β
  | .object members => algebra.members (foldMembers members)
  | _ => algebra.noMap

def foldMembers : List (String × Json) → List α
  | [] => []
  | (key, value) :: rest => foldMember key value :: foldMembers rest

def foldMember (key : String) : Json → α
  | .array items =>
      if Text.lower key = "or" then algebra.any (foldItems items)
      else if Text.lower key = "and" then algebra.all (foldItems items)
      else algebra.isIn key items
  | value => algebra.single key value

def foldItems : List Json → List β
  | [] => []
  | item :: rest => item.foldMap :: foldItems rest

end

theorem foldItems_eq_map (items : List Json) :
    foldItems algebra items = items.map (Json.foldMap algebra) := by
  induction items with
  | nil => rw [foldItems, List.map_nil]
  | cons item rest ih => rw [foldItems, ih, List.map_cons]

theorem foldMembers_eq_map (members : List (String × Json)) :
    foldMembers algebra members =
      members.map fun member => foldMember algebra member.1 member.2 := by
  induction members with
  | nil => rw [foldMembers, List.map_nil]
  | cons member rest ih => rw [foldMembers, ih, List.map_cons]

theorem Json.foldMap_object (members : List (String × Json)) :
    (Json.object members).foldMap algebra =
      algebra.members (members.map fun member => foldMember algebra member.1 member.2) := by
  rw [foldMap, foldMembers_eq_map]

/-! The words of the keys. -/

namespace Keyword

def text : Keyword → String
  | or => "or"
  | and => "and"
  | like => "like"
  | not => "not"

theorem ofKey?_eq_some_iff {key : String} {keyword : Keyword} :
    ofKey? key = some keyword ↔ Text.lower key = keyword.text := by
  unfold ofKey?
  split <;> cases keyword <;> simp_all [text]

theorem ofKey?_eq_none_iff {key : String} :
    ofKey? key = none ↔ Text.lower key ∉ ["or", "and", "like", "not"] := by
  unfold ofKey?
  split <;> simp_all

theorem ne_like_of_notMem {word : String} (h : word ∉ ["or", "and", "like", "not"]) :
    word ≠ "like" := by
  rintro rfl
  exact h (by decide)

end Keyword

/-! The keys of comparisons. -/

/-- In just these cases. -/
def comparatorKeys : List String :=
  ["<", "lessThan", "<=", "lessThanOrEqual", ">", "greaterThan", ">=", "greaterThanOrEqual",
    "!", "not", "like", "contains", "startsWith", "endsWith"]

/-- One such key makes an object a list of comparisons. -/
def Json.compares : Json → Bool
  | .object members => members.any fun member => member.1 ∈ comparatorKeys
  | _ => false

theorem Comparator.isSome_ofKey?_iff {key : String} :
    (ofKey? key).isSome ↔ key ∈ comparatorKeys := by
  unfold ofKey?
  split
  -- Every key that is read is in the list, and no other is.
  case h_15 => simp_all [comparatorKeys]
  all_goals decide

theorem isComparison_eq_compares (json : Json) : isComparison json = json.compares := by
  cases json with
  | object members =>
      rw [isComparison, Json.compares]
      congr 1
      funext member
      rw [Bool.eq_iff_iff, Comparator.isSome_ofKey?_iff, decide_eq_true_eq]
  | null | bool _ | number _ | string _ | array _ => rfl

/-! Equations of the fold. -/

/-- An array is read in one of three ways. -/
theorem array_cases (key : String) :
    Text.lower key = "or" ∨ Text.lower key = "and" ∨ Text.lower key ∉ ["or", "and"] := by
  by_cases hor : Text.lower key = "or"
  · exact .inl hor
  · by_cases hand : Text.lower key = "and"
    · exact .inr (.inl hand)
    · exact .inr (.inr (by simp [hor, hand]))

theorem foldMember_or {key : String} (h : Text.lower key = "or") (items : List Json) :
    foldMember algebra key (.array items) = algebra.any (items.map (Json.foldMap algebra)) := by
  rw [foldMember, if_pos h, foldItems_eq_map]

theorem foldMember_and {key : String} (h : Text.lower key = "and") (items : List Json) :
    foldMember algebra key (.array items) = algebra.all (items.map (Json.foldMap algebra)) := by
  have hor : Text.lower key ≠ "or" := by rw [h]; decide
  rw [foldMember, if_neg hor, if_pos h, foldItems_eq_map]

theorem foldMember_values {key : String} (h : Text.lower key ∉ ["or", "and"])
    (items : List Json) : foldMember algebra key (.array items) = algebra.isIn key items := by
  rw [List.mem_cons, List.mem_singleton, not_or] at h
  rw [foldMember, if_neg h.1, if_neg h.2]

theorem foldMember_single {key : String} {value : Json} (h : value.items? = none) :
    foldMember algebra key value = algebra.single key value := by
  cases value with
  | array items => cases h
  | null | bool _ | number _ | string _ | object _ =>
      rw [foldMember]
      simp

/-- Induction over maps. The maps below a map are items of its arrays. -/
@[elab_as_elim] theorem Json.induct_maps {motive : Json → Prop} {M : String → Json → Prop}
    (object : ∀ members : List (String × Json), (∀ entry ∈ members, M entry.1 entry.2) →
      motive (.object members))
    (noMap : ∀ json : Json, json.members? = none → motive json)
    (array : ∀ (key : String) (items : List Json), (∀ item ∈ items, motive item) →
      M key (.array items))
    (single : ∀ (key : String) (value : Json), value.items? = none → M key value)
    (json : Json) : motive json := by
  match json with
  | .object members =>
      apply object
      intro entry hentry
      -- Only an array has maps below it that count.
      match hvalue : entry.2 with
      | .array items =>
          apply array
          intro item hitem
          exact Json.induct_maps object noMap array single item
      | .null | .bool _ | .number _ | .string _ | .object _ => exact single _ _ rfl
  | .null | .bool _ | .number _ | .string _ | .array _ => exact noMap _ rfl
termination_by sizeOf json
decreasing_by
  have hmembers := List.sizeOf_lt_of_mem hentry
  have hitems := List.sizeOf_lt_of_mem hitem
  have hentrySize : sizeOf entry = 1 + sizeOf entry.1 + sizeOf entry.2 := rfl
  rw [hvalue, Json.array.sizeOf_spec] at hentrySize
  rw [Json.object.sizeOf_spec]
  omega

/-! Reading is the same recursion, with faults. -/

theorem branchesOf_eq_mapM (items : List Json) :
    branchesOf items = items.mapM Predicate.ofJson := by
  induction items with
  | nil => rfl
  | cons item rest ih => rw [branchesOf, ih, List.mapM_cons]

theorem clausesOfMembers_eq_mapM (members : List (String × Json)) :
    clausesOfMembers members = members.mapM fun member => clauseOf member.1 member.2 := by
  induction members with
  | nil => rfl
  | cons member rest ih => rw [clausesOfMembers, ih, List.mapM_cons]

theorem Predicate.ofJson_object (members : List (String × Json)) :
    Predicate.ofJson (.object members) =
      members.mapM fun member => clauseOf member.1 member.2 := by
  rw [ofJson, clausesOfMembers_eq_mapM]

theorem Predicate.ofJson_noMap {json : Json} (h : json.members? = none) :
    Predicate.ofJson json = .error (.malformed .whereNotObject) := by
  cases json with
  | object members => cases h
  | null | bool _ | number _ | string _ | array _ => rw [ofJson]; simp

theorem clauseOf_or {key : String} (h : Text.lower key = "or") (items : List Json) :
    clauseOf key (.array items) =
      (items.mapM Predicate.ofJson >>= fun branches => .ok (.any branches)) := by
  have hread : Keyword.ofKey? key = some .or := Keyword.ofKey?_eq_some_iff.2 h
  rw [clauseOf, hread, branchesOf_eq_mapM]
  rfl

theorem clauseOf_and {key : String} (h : Text.lower key = "and") (items : List Json) :
    clauseOf key (.array items) =
      (items.mapM Predicate.ofJson >>= fun branches => .ok (.all branches)) := by
  have hread : Keyword.ofKey? key = some .and := Keyword.ofKey?_eq_some_iff.2 h
  rw [clauseOf, hread, branchesOf_eq_mapM]
  rfl

theorem clauseOf_values {key : String} (h : Text.lower key ∉ ["or", "and"])
    (items : List Json) :
    clauseOf key (.array items) = .ok (.column key (.isIn (items.map .ofJson))) := by
  rw [List.mem_cons, List.mem_singleton, not_or] at h
  rw [clauseOf]
  split
  · rename_i hread
    exact absurd (Keyword.ofKey?_eq_some_iff.1 hread) h.1
  · rename_i hread
    exact absurd (Keyword.ofKey?_eq_some_iff.1 hread) h.2
  · rfl

theorem clauseOf_single {key : String} {value : Json} (h : value.items? = none) :
    clauseOf key value = Clause.ofMember key value := by
  cases value with
  | array items => cases h
  | null | bool _ | number _ | string _ | object _ => rw [clauseOf]; simp

/-- A member that is no array is read as a like map or as a condition on a column. -/
theorem Clause.ofMember_cases {key : String} {value : Json} {clause : Clause}
    (h : ofMember key value = .ok clause) :
    (Text.lower key = "like" ∧ ∃ entries, value = .object entries ∧
      clause = .like (entries.map fun entry => (entry.1, .ofJson entry.2))) ∨
    (Text.lower key ∉ ["or", "and", "like", "not"] ∧ ∃ condition,
      Condition.ofJson value = .ok condition ∧ clause = .column key condition) := by
  unfold ofMember at h
  cases hkey : Keyword.ofKey? key with
  | none =>
      rw [hkey] at h
      obtain ⟨condition, hcondition, h⟩ := eq_ok_of_bind h
      exact .inr ⟨Keyword.ofKey?_eq_none_iff.1 hkey, condition, hcondition, (Except.ok.inj h).symm⟩
  | some keyword =>
      rw [hkey] at h
      cases keyword with
      | or | and | not => cases h
      | like =>
          cases value with
          | object entries =>
              refine .inl ⟨Keyword.ofKey?_eq_some_iff.1 hkey, entries, rfl, ?_⟩
              exact (Except.ok.inj h).symm
          | null | bool _ | number _ | string _ | array _ => cases h

/-- A condition is a list of comparisons, or else equality. -/
theorem Condition.ofJson_cases {value : Json} {condition : Condition}
    (h : ofJson value = .ok condition) :
    (value.compares = false ∧ condition = .equals (.ofJson value)) ∨
    (∃ members comparisons, value = .object members ∧ value.compares = true ∧
      members.mapM (fun member => comparison member.1 member.2) = .ok comparisons ∧
      condition = .compare comparisons) := by
  cases value with
  | object members =>
      rw [ofJson, isComparison_eq_compares] at h
      by_cases hcomparison : (Json.object members).compares = true
      · rw [if_pos hcomparison] at h
        obtain ⟨comparisons, hcomparisons, h⟩ := eq_ok_of_bind h
        exact .inr ⟨members, comparisons, rfl, hcomparison, hcomparisons, (Except.ok.inj h).symm⟩
      · rw [if_neg hcomparison] at h
        exact .inl ⟨eq_false_of_ne_true hcomparison, (Except.ok.inj h).symm⟩
  | null | bool _ | number _ | string _ | array _ => exact .inl ⟨rfl, (Except.ok.inj h).symm⟩

/-- A fold over what is written makes the same of each kind of member as a fold over what is
read. -/
structure Json.Algebra.Reads (source : Json.Algebra α β) (target : Clause.Algebra α β) : Prop where
  members : ∀ parts, source.members parts = target.clauses parts
  any : ∀ branches, source.any branches = target.any branches
  all : ∀ branches, source.all branches = target.all branches
  isIn : ∀ key items, source.isIn key items = target.column key (.isIn (items.map .ofJson))
  single : ∀ {key value clause}, Clause.ofMember key value = .ok clause →
    source.single key value = clause.fold target

/-- Then they make the same of every map that can be read. -/
theorem Json.Algebra.Reads.foldMap_eq {source : Json.Algebra α β} {target : Clause.Algebra α β}
    (reads : source.Reads target) (json : Json) :
    ∀ predicate, Predicate.ofJson json = .ok predicate →
      json.foldMap source = predicate.fold target := by
  refine Json.induct_maps (M := fun key value => ∀ clause, clauseOf key value = .ok clause →
    foldMember source key value = clause.fold target) ?_ ?_ ?_ ?_ json
  · intro members ih predicate hread
    rw [Predicate.ofJson_object] at hread
    rw [foldMap_object, reads.members, Predicate.fold]
    exact congrArg target.clauses (map_eq_of_mapM hread ih)
  · intro json hjson predicate hread
    rw [Predicate.ofJson_noMap hjson] at hread
    cases hread
  · intro key items ih clause hread
    rcases array_cases key with hkey | hkey | hkey
    · rw [clauseOf_or hkey] at hread
      obtain ⟨branches, hbranches, hread⟩ := eq_ok_of_bind hread
      obtain rfl := Except.ok.inj hread
      rw [foldMember_or source hkey, reads.any, Clause.fold_any, map_eq_of_mapM hbranches ih]
    · rw [clauseOf_and hkey] at hread
      obtain ⟨branches, hbranches, hread⟩ := eq_ok_of_bind hread
      obtain rfl := Except.ok.inj hread
      rw [foldMember_and source hkey, reads.all, Clause.fold_all, map_eq_of_mapM hbranches ih]
    · rw [clauseOf_values hkey] at hread
      obtain rfl := Except.ok.inj hread
      rw [foldMember_values source hkey, reads.isIn, Clause.fold_column]
  · intro key value hvalue clause hread
    rw [clauseOf_single hvalue] at hread
    rw [foldMember_single source hvalue]
    exact reads.single hread

end CriteriaSql
