import CriteriaSql.Proofs.Criteria.Attributes
import CriteriaSql.Proofs.Criteria.Reports

/-! The maps of attributes that can be read, and the faults of the others. -/

namespace CriteriaSql

/-- Every comparator of a comparison is known, and no operand is a comparison itself. -/
def IsComparisonList (members : List (String × Json)) : Prop :=
  ∀ member ∈ members, member.1 ∈ comparatorKeys ∧ member.2.compares = false

/-- An object with a comparator among its keys is a list of comparisons. Anything else is a
value. -/
def IsOperand : Json → Prop
  | .object members =>
      (∃ member ∈ members, member.1 ∈ comparatorKeys) → IsComparisonList members
  | _ => True

mutual

inductive Json.IsMap : Json → Prop where
  | object {members : List (String × Json)} (h : ∀ member ∈ members, IsMember member.1 member.2) :
      Json.IsMap (.object members)

inductive IsMember : String → Json → Prop where
  | branches {key : String} {items : List Json} (hkey : Text.lower key ∈ ["or", "and"])
      (h : ∀ item ∈ items, Json.IsMap item) : IsMember key (.array items)
  | values {key : String} {items : List Json} (hkey : Text.lower key ∉ ["or", "and"]) :
      IsMember key (.array items)
  | patterns {key : String} {entries : List (String × Json)} (hkey : Text.lower key = "like") :
      IsMember key (.object entries)
  | operand {key : String} {value : Json} (hkey : Text.lower key ∉ ["or", "and", "like", "not"])
      (hvalue : value.items? = none) (h : IsOperand value) : IsMember key value

end

/-! Faults, in the order in which they are met. -/

def comparisonFaults (member : String × Json) : List Fault :=
  if member.1 ∈ comparatorKeys then
    if member.2.compares then [.malformed (.nestedComparator member.1)] else []
  else
    [.unknownComparator member.1]

def operandFaults : Json → List Fault
  | .object members =>
      if (Json.object members).compares then members.flatMap comparisonFaults else []
  | _ => []

/-- The faults of a member whose value is no array. -/
def singleFaults (key : String) (value : Json) : List Fault :=
  match Text.lower key with
  | "or" | "and" => [.malformed (.branchesNotArray key)]
  | "like" => if value.members?.isSome then [] else [.malformed .patternsNotObject]
  | "not" => [.groupNegation]
  | _ => operandFaults value

/-- Members come in the order in which they are written, and each with all that is below it. -/
def faultsAlgebra : Json.Algebra (List Fault) (List Fault) where
  members parts := parts.flatten
  noMap := [.malformed .whereNotObject]
  any branches := branches.flatten
  all branches := branches.flatten
  isIn _ _ := []
  single := singleFaults

def Json.mapFaults (json : Json) : List Fault :=
  json.foldMap faultsAlgebra

/-! Reading reports the first of them. -/

theorem reports_comparison (member : String × Json) :
    Reports (comparisonFaults member) (Condition.comparison member.1 member.2) := by
  unfold comparisonFaults Condition.comparison
  cases hread : Comparator.ofKey? member.1 with
  | none =>
      have hkey : member.1 ∉ comparatorKeys := by
        rw [← Comparator.isSome_ofKey?_iff, hread]
        decide
      rw [if_neg hkey]
      exact .error _
  | some comparator =>
      have hkey : member.1 ∈ comparatorKeys := by
        rw [← Comparator.isSome_ofKey?_iff, hread]
        rfl
      rw [if_pos hkey, isComparison_eq_compares]
      by_cases hnested : member.2.compares = true
      · simp only [if_pos hnested]
        exact .error _
      · simp only [if_neg hnested]
        exact .ok _

theorem reports_condition (value : Json) :
    Reports (operandFaults value) (Condition.ofJson value) := by
  cases value with
  | object members =>
      rw [operandFaults, Condition.ofJson, isComparison_eq_compares]
      by_cases hcomparison : (Json.object members).compares = true
      · rw [if_pos hcomparison, if_pos hcomparison]
        exact (Reports.mapM fun member _ => reports_comparison member).map Condition.compare
      · rw [if_neg hcomparison, if_neg hcomparison]
        exact .ok _
  | null | bool _ | number _ | string _ | array _ => exact .ok _

/-- Each word leaves its own faults, and any other key those of the value. -/
theorem singleFaults_eq (key : String) (value : Json) :
    singleFaults key value = match Keyword.ofKey? key with
      | some .or | some .and => [.malformed (.branchesNotArray key)]
      | some .like => if value.members?.isSome then [] else [.malformed .patternsNotObject]
      | some .not => [.groupNegation]
      | none => operandFaults value := by
  unfold singleFaults Keyword.ofKey?
  split <;> simp_all

theorem reports_single (key : String) (value : Json) :
    Reports (singleFaults key value) (Clause.ofMember key value) := by
  rw [singleFaults_eq, Clause.ofMember]
  cases Keyword.ofKey? key with
  | none => exact (reports_condition value).map (Clause.column key)
  | some keyword =>
      cases keyword with
      | or | and | not => exact .error _
      | like =>
          cases value with
          | object entries => exact .ok _
          | null | bool _ | number _ | string _ | array _ => exact .error _

theorem reports_map (json : Json) : Reports json.mapFaults (Predicate.ofJson json) := by
  refine Json.induct_maps (M := fun key value =>
    Reports (foldMember faultsAlgebra key value) (clauseOf key value)) ?_ ?_ ?_ ?_ json
  · intro members ih
    rw [Json.mapFaults, Json.foldMap_object, Predicate.ofJson_object]
    exact Reports.mapM ih
  · intro json hjson
    rw [Predicate.ofJson_noMap hjson]
    cases json with
    | object members => cases hjson
    | null | bool _ | number _ | string _ | array _ => exact .error _
  · intro key items ih
    rcases array_cases key with hkey | hkey | hkey
    · rw [foldMember_or _ hkey, clauseOf_or hkey]
      exact (Reports.mapM ih).map Clause.any
    · rw [foldMember_and _ hkey, clauseOf_and hkey]
      exact (Reports.mapM ih).map Clause.all
    · rw [foldMember_values _ hkey, clauseOf_values hkey]
      exact .ok _
  · intro key value hvalue
    rw [foldMember_single _ hvalue, clauseOf_single hvalue]
    exact reports_single key value

/-! There are none in a map, and only there. -/

theorem comparisonFaults_eq_nil_iff {member : String × Json} :
    comparisonFaults member = [] ↔ member.1 ∈ comparatorKeys ∧ member.2.compares = false := by
  unfold comparisonFaults
  by_cases hkey : member.1 ∈ comparatorKeys
  · rw [if_pos hkey]
    simp [hkey]
  · rw [if_neg hkey]
    simp [hkey]

theorem Json.compares_iff {members : List (String × Json)} :
    (Json.object members).compares ↔ ∃ member ∈ members, member.1 ∈ comparatorKeys := by
  rw [compares, List.any_eq_true]
  simp

theorem operandFaults_eq_nil_iff {value : Json} : operandFaults value = [] ↔ IsOperand value := by
  cases value with
  | object members =>
      rw [operandFaults, IsOperand, ← Json.compares_iff]
      by_cases hcomparison : (Json.object members).compares = true
      · rw [if_pos hcomparison, List.flatMap_eq_nil_iff]
        constructor
        · exact fun h _ member hmember => comparisonFaults_eq_nil_iff.1 (h member hmember)
        · exact fun h member hmember =>
            comparisonFaults_eq_nil_iff.2 (h hcomparison member hmember)
      · rw [if_neg hcomparison]
        exact ⟨fun _ h => absurd h hcomparison, fun _ => rfl⟩
  | null | bool _ | number _ | string _ | array _ => exact ⟨fun _ => trivial, fun _ => rfl⟩

theorem singleFaults_eq_nil_iff {key : String} {value : Json} (hvalue : value.items? = none) :
    singleFaults key value = [] ↔ IsMember key value := by
  rw [singleFaults_eq]
  cases hkey : Keyword.ofKey? key with
  | none =>
      have hword := Keyword.ofKey?_eq_none_iff.1 hkey
      rw [operandFaults_eq_nil_iff]
      constructor
      · exact .operand hword hvalue
      · intro h
        cases h with
        | branches => cases hvalue
        | values => cases hvalue
        | patterns hlike => simp [hlike] at hword
        | operand _ _ h => exact h
  | some keyword =>
      -- Any other word of a key leaves one kind of member at most.
      have hnone : Text.lower key ∈ ["or", "and", "like", "not"] := by
        apply Decidable.byContradiction
        intro hword
        rw [Keyword.ofKey?_eq_none_iff.2 hword] at hkey
        cases hkey
      cases keyword with
      | or | and | not =>
          refine ⟨fun h => (by cases h), fun h => ?_⟩
          cases h with
          | branches => cases hvalue
          | values => cases hvalue
          | patterns hlike =>
              have hread : Keyword.ofKey? key = some .like := Keyword.ofKey?_eq_some_iff.2 hlike
              rw [hread] at hkey
              cases hkey
          | operand hword => exact absurd hnone hword
      | like =>
          cases value with
          | object entries =>
              exact ⟨fun _ => .patterns (Keyword.ofKey?_eq_some_iff.1 hkey), fun _ => rfl⟩
          | array items => cases hvalue
          | null | bool _ | number _ | string _ =>
              refine ⟨fun h => (by cases h), fun h => ?_⟩
              cases h with
              | operand hword => exact absurd hnone hword

theorem mapFaults_eq_nil_iff (json : Json) : json.mapFaults = [] ↔ json.IsMap := by
  have hitems : ∀ items : List Json, (∀ item ∈ items, (item.mapFaults = [] ↔ item.IsMap)) →
      ((items.map Json.mapFaults).flatten = [] ↔ ∀ item ∈ items, item.IsMap) := by
    intro items ih
    rw [List.flatten_eq_nil_iff]
    constructor
    · intro h item hitem
      exact (ih item hitem).1 (h _ (List.mem_map_of_mem hitem))
    · intro h faults hfaults
      obtain ⟨item, hitem, rfl⟩ := List.mem_map.1 hfaults
      exact (ih item hitem).2 (h item hitem)
  have hbranches : ∀ (key : String) (items : List Json), Text.lower key ∈ ["or", "and"] →
      (IsMember key (.array items) ↔ ∀ item ∈ items, item.IsMap) := by
    intro key items hkey
    refine ⟨fun h => ?_, .branches hkey⟩
    cases h with
    | branches _ h => exact h
    | values h => exact absurd hkey h
    | operand _ h => cases h
  -- The induction carries maps and their members along together.
  refine Json.induct_maps (M := fun key value =>
    foldMember faultsAlgebra key value = [] ↔ IsMember key value) ?_ ?_ ?_ ?_ json
  · intro members ih
    rw [Json.mapFaults, Json.foldMap_object]
    show (members.map _).flatten = [] ↔ _
    rw [List.flatten_eq_nil_iff]
    constructor
    · intro h
      refine .object fun member hmember => (ih member hmember).1 ?_
      exact h _ (List.mem_map.2 ⟨member, hmember, rfl⟩)
    · rintro ⟨h⟩ faults hfaults
      obtain ⟨member, hmember, rfl⟩ := List.mem_map.1 hfaults
      exact (ih member hmember).2 (h member hmember)
  · intro json hjson
    refine ⟨fun h => ?_, fun h => ?_⟩
    · cases json with
      | object members => cases hjson
      | null | bool _ | number _ | string _ | array _ => cases h
    · cases h
      cases hjson
  · intro key items ih
    rcases array_cases key with hkey | hkey | hkey
    · rw [foldMember_or _ hkey, hbranches key items (by simp [hkey])]
      exact hitems items ih
    · rw [foldMember_and _ hkey, hbranches key items (by simp [hkey])]
      exact hitems items ih
    · rw [foldMember_values _ hkey]
      exact ⟨fun _ => .values hkey, fun _ => rfl⟩
  · intro key value hvalue
    rw [foldMember_single _ hvalue]
    exact singleFaults_eq_nil_iff hvalue

/-! All of them are faults in what was asked. -/

theorem isUsage_of_mem_comparisonFaults {member : String × Json} {fault : Fault}
    (h : fault ∈ comparisonFaults member) : fault.isUsage := by
  unfold comparisonFaults at h
  by_cases hkey : member.1 ∈ comparatorKeys
  · rw [if_pos hkey] at h
    by_cases hnested : member.2.compares = true
    · rw [if_pos hnested] at h
      rw [List.mem_singleton.1 h]
      rfl
    · rw [if_neg hnested] at h
      cases h
  · rw [if_neg hkey] at h
    rw [List.mem_singleton.1 h]
    rfl

theorem isUsage_of_mem_operandFaults {value : Json} {fault : Fault}
    (h : fault ∈ operandFaults value) : fault.isUsage := by
  cases value with
  | object members =>
      rw [operandFaults] at h
      by_cases hcomparison : (Json.object members).compares = true
      · rw [if_pos hcomparison] at h
        obtain ⟨member, _, hmember⟩ := List.mem_flatMap.1 h
        exact isUsage_of_mem_comparisonFaults hmember
      · rw [if_neg hcomparison] at h
        cases h
  | null | bool _ | number _ | string _ | array _ => cases h

theorem isUsage_of_mem_singleFaults {key : String} {value : Json} {fault : Fault}
    (h : fault ∈ singleFaults key value) : fault.isUsage := by
  rw [singleFaults_eq] at h
  cases hkey : Keyword.ofKey? key with
  | none =>
      rw [hkey] at h
      exact isUsage_of_mem_operandFaults h
  | some keyword =>
      rw [hkey] at h
      cases keyword with
      | or | and | not =>
          rw [List.mem_singleton.1 h]
          rfl
      | like =>
          by_cases hobject : value.members?.isSome = true
          · simp only [if_pos hobject] at h
            cases h
          · simp only [if_neg hobject] at h
            rw [List.mem_singleton.1 h]
            rfl

theorem isUsage_of_mem_mapFaults (json : Json) : ∀ fault ∈ json.mapFaults, fault.isUsage := by
  have hflatten : ∀ {parts : List (List Fault)}, (∀ part ∈ parts, ∀ fault ∈ part, fault.isUsage) →
      ∀ fault ∈ parts.flatten, fault.isUsage := by
    intro parts h fault hfault
    obtain ⟨part, hpart, hfault⟩ := List.mem_flatten.1 hfault
    exact h part hpart fault hfault
  have hitems : ∀ items : List Json,
      (∀ item ∈ items, ∀ fault ∈ item.mapFaults, fault.isUsage) →
      ∀ fault ∈ (items.map Json.mapFaults).flatten, fault.isUsage := by
    intro items ih
    apply hflatten
    intro part hpart
    obtain ⟨item, hitem, rfl⟩ := List.mem_map.1 hpart
    exact ih item hitem
  refine Json.induct_maps (M := fun key value =>
    ∀ fault ∈ foldMember faultsAlgebra key value, fault.isUsage) ?_ ?_ ?_ ?_ json
  · intro members ih
    rw [Json.mapFaults, Json.foldMap_object]
    apply hflatten
    intro part hpart
    obtain ⟨member, hmember, rfl⟩ := List.mem_map.1 hpart
    exact ih member hmember
  · intro json hjson fault hfault
    cases json with
    | object members => cases hjson
    | null | bool _ | number _ | string _ | array _ =>
        rw [List.mem_singleton.1 hfault]
        rfl
  · intro key items ih
    rcases array_cases key with hkey | hkey | hkey
    · rw [foldMember_or _ hkey]
      exact hitems items ih
    · rw [foldMember_and _ hkey]
      exact hitems items ih
    · rw [foldMember_values _ hkey]
      intro fault hfault
      cases hfault
  · intro key value hvalue fault hfault
    rw [foldMember_single _ hvalue] at hfault
    exact isUsage_of_mem_singleFaults hfault

end CriteriaSql
