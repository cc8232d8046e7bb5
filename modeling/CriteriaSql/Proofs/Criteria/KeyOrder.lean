import CriteriaSql.OrderedMap
import CriteriaSql.Proofs.Criteria.Acceptance
import CriteriaSql.Proofs.Sql.JsonMeaning
import Mathlib.Logic.Relation

/-!
The order in which keys are written. Criteria look their members up and see none of it, and in a
filter it decides at most the order of faults and of conditions that have to hold together.
-/

namespace CriteriaSql

open Sql (Atom Truth)

/-! The members of criteria. -/

namespace Criteria

/-- The keys that are looked up. All others are passed over. -/
def keys : List String :=
  ["where", "sort"] ++ columnKeys ++ ["limit"]

section

variable {members others : List (String × Json)}

theorem filterOf_congr (h : given? members "where" = given? others "where") :
    filterOf members = filterOf others := by
  rw [filterOf, filterOf, h]

theorem sortOf_congr (h : given? members "sort" = given? others "sort") :
    sortOf members = sortOf others := by
  rw [sortOf, sortOf, h]

theorem columnsOf_congr {key : String} (h : given? members key = given? others key) :
    columnsOf members key = columnsOf others key := by
  rw [columnsOf, columnsOf, h]

theorem limitOf_congr (h : given? members "limit" = given? others "limit") :
    limitOf members = limitOf others := by
  rw [limitOf, limitOf, h]

theorem ofMembers_congr (h : ∀ key ∈ keys, given? members key = given? others key) :
    ofMembers members = ofMembers others := by
  have hcolumns : ∀ key ∈ columnKeys, columnsOf members key = columnsOf others key := by
    intro key hkey
    have hmem : key ∈ keys := List.mem_append_left _ (List.mem_append_right _ hkey)
    exact columnsOf_congr (h key hmem)
  unfold ofMembers
  rw [filterOf_congr (h "where" (by decide)), sortOf_congr (h "sort" (by decide)),
    limitOf_congr (h "limit" (by decide)), hcolumns "groupBy" (by decide),
    hcolumns "sum" (by decide), hcolumns "average" (by decide), hcolumns "min" (by decide),
    hcolumns "max" (by decide)]

end

/-- Under these keys objects have the same values if they have the same members, in any order. -/
theorem given?_eq_of_perm {a b : OrderedMap Json}
    (h : (a.entries.filter fun member => member.1 ∈ keys).Perm
      (b.entries.filter fun member => member.1 ∈ keys))
    {key : String} (hkey : key ∈ keys) : given? a.entries key = given? b.entries key := by
  have hlookup : a.get? key = b.get? key := by
    ext value
    have hmem := h.mem_iff (a := (key, value))
    simp only [List.mem_filter, hkey, decide_true, and_true] at hmem
    rw [OrderedMap.get?_eq_some_iff, OrderedMap.get?_eq_some_iff, hmem]
  unfold given?
  rw [show a.entries.lookup key = b.entries.lookup key from hlookup]

end Criteria

/-! The keys of a filter. -/

/-- The comparisons of a list come in another order, or those of a list that stands for an operand
in it do. -/
inductive ComparisonsReorder : Json → Json → Prop where
  | members {as bs : List (String × Json)} (hcomparison : (Json.object as).compares)
      (h : as.Perm bs) : ComparisonsReorder (.object as) (.object bs)
  | operand {key : String} {a b : Json} (before after : List (String × Json))
      (hcomparison : (Json.object (before ++ (key, a) :: after)).compares)
      (h : ComparisonsReorder a b) :
      ComparisonsReorder (.object (before ++ (key, a) :: after))
        (.object (before ++ (key, b) :: after))

mutual

/-- The members of one map come in another order, or something in one of them does. -/
inductive Json.Reorders : Json → Json → Prop where
  | members {as bs : List (String × Json)} (h : as.Perm bs) :
      Json.Reorders (.object as) (.object bs)
  | member {key : String} {a b : Json} (before after : List (String × Json))
      (h : MemberReorders key a b) :
      Json.Reorders (.object (before ++ (key, a) :: after)) (.object (before ++ (key, b) :: after))

/-- Of a member, only what is itself a map, a like map or a list of comparisons may be reordered.
The order of an array counts, and what is a value stays as it is. -/
inductive MemberReorders : String → Json → Json → Prop where
  | branch {key : String} {a b : Json} (before after : List Json)
      (hkey : Text.lower key ∈ ["or", "and"]) (h : Json.Reorders a b) :
      MemberReorders key (.array (before ++ a :: after)) (.array (before ++ b :: after))
  /-- A map under such a key is refused. -/
  | refused {key : String} {a b : Json} (hkey : Text.lower key ∈ ["or", "and", "not"])
      (h : Json.Reorders a b) : MemberReorders key a b
  | patterns {key : String} {as bs : List (String × Json)} (hkey : Text.lower key = "like")
      (h : as.Perm bs) : MemberReorders key (.object as) (.object bs)
  | comparisons {key : String} {a b : Json}
      (hkey : Text.lower key ∉ ["or", "and", "like", "not"]) (h : ComparisonsReorder a b) :
      MemberReorders key a b

end

theorem Json.Reorders.items?_eq_none {a b : Json} (h : a.Reorders b) :
    a.items? = none ∧ b.items? = none := by
  cases h <;> exact ⟨rfl, rfl⟩

/-- An object is a list of comparisons in whatever order its keys come. -/
theorem compares_perm {as bs : List (String × Json)} (h : as.Perm bs) :
    (Json.object as).compares = (Json.object bs).compares :=
  h.any_eq

theorem ComparisonsReorder.compares {a b : Json} (h : ComparisonsReorder a b) :
    a.compares ∧ b.compares := by
  cases h with
  | members hcomparison h => exact ⟨hcomparison, compares_perm h ▸ hcomparison⟩
  | operand before after hcomparison _ =>
      refine ⟨hcomparison, ?_⟩
      rw [Json.compares, List.any_append, List.any_cons] at hcomparison ⊢
      exact hcomparison

theorem ComparisonsReorder.items?_eq_none {a b : Json} (h : ComparisonsReorder a b) :
    a.items? = none ∧ b.items? = none := by
  cases h <;> exact ⟨rfl, rfl⟩

/-! What can be read is read in whatever order it comes, although another fault may come first. -/

theorem eq_nil_congr_of_perm {xs ys : List α} (h : xs.Perm ys) : xs = [] ↔ ys = [] := by
  rw [← List.perm_nil, ← List.perm_nil]
  exact ⟨h.symm.trans, h.trans⟩

theorem operandFaults_perm {as bs : List (String × Json)} (h : as.Perm bs) :
    (operandFaults (.object as)).Perm (operandFaults (.object bs)) := by
  rw [operandFaults, operandFaults, compares_perm h]
  split
  · exact h.flatMap_right _
  · exact .refl []

/-- Comparisons are no operand of a comparison. -/
theorem operandFaults_ne_nil {key : String} {operand : Json} {before after : List (String × Json)}
    (hcomparison : (Json.object (before ++ (key, operand) :: after)).compares)
    (hoperand : operand.compares) :
    operandFaults (.object (before ++ (key, operand) :: after)) ≠ [] := by
  intro h
  have hlist := operandFaults_eq_nil_iff.1 h (Json.compares_iff.1 hcomparison)
  have hmember := hlist (key, operand) (by simp)
  rw [hoperand] at hmember
  cases hmember.2

theorem ComparisonsReorder.faults_iff {a b : Json} (h : ComparisonsReorder a b) :
    operandFaults a = [] ↔ operandFaults b = [] := by
  have houter := h.compares
  cases h with
  | members _ h => exact eq_nil_congr_of_perm (operandFaults_perm h)
  | operand before after _ h =>
      -- Neither can be read, so the order inside the operand does not matter.
      have hinner := h.compares
      exact iff_of_false (operandFaults_ne_nil houter.1 hinner.1)
        (operandFaults_ne_nil houter.2 hinner.2)

theorem singleFaults_ne_nil {key : String} (hkey : Text.lower key ∈ ["or", "and", "not"])
    (value : Json) : singleFaults key value ≠ [] := by
  simp only [List.mem_cons, List.not_mem_nil, or_false] at hkey
  unfold singleFaults
  rcases hkey with hkey | hkey | hkey <;> simp [hkey]

/-- Under either key the items of an array are maps, and what is made of them is combined. -/
theorem foldMember_branches (algebra : Json.Algebra α β) {key : String}
    (hkey : Text.lower key ∈ ["or", "and"]) : ∃ combine : List β → α, ∀ items,
      foldMember algebra key (.array items) = combine (items.map (Json.foldMap algebra)) := by
  rcases List.mem_pair.1 hkey with hor | hand
  · exact ⟨algebra.any, foldMember_or algebra hor⟩
  · exact ⟨algebra.all, foldMember_and algebra hand⟩

theorem foldMember_faults_branches {key : String} (hkey : Text.lower key ∈ ["or", "and"])
    (items : List Json) :
    foldMember faultsAlgebra key (.array items) = (items.map Json.mapFaults).flatten := by
  rcases List.mem_pair.1 hkey with hor | hand
  · exact foldMember_or faultsAlgebra hor items
  · exact foldMember_and faultsAlgebra hand items

theorem foldMember_faults_single {value : Json} (key : String) (h : value.items? = none) :
    foldMember faultsAlgebra key value = singleFaults key value :=
  foldMember_single faultsAlgebra h

/-- Under a column only the value counts. -/
theorem singleFaults_column {key : String} (hkey : Text.lower key ∉ ["or", "and", "like", "not"])
    (value : Json) : singleFaults key value = operandFaults value := by
  rw [singleFaults_eq, Keyword.ofKey?_eq_none_iff.2 hkey]

theorem flatten_eq_nil_congr {x y : List α} (h : x = [] ↔ y = []) (before after : List (List α)) :
    (before ++ x :: after).flatten = [] ↔ (before ++ y :: after).flatten = [] := by
  simp [h]

theorem eq_nil_of_flatten {x : List α} {before after : List (List α)}
    (h : (before ++ x :: after).flatten = []) : x = [] :=
  List.flatten_eq_nil_iff.1 h x (by simp)

mutual

/-- There are faults in a map if and only if there are after one change of order, wherever in it
that is. -/
theorem Json.Reorders.faults_iff : ∀ {a b : Json}, a.Reorders b →
    (a.mapFaults = [] ↔ b.mapFaults = [])
  | _, _, .members h => by
      have hperm := (h.map fun member => foldMember faultsAlgebra member.1 member.2).flatten
      rw [Json.mapFaults, Json.mapFaults, Json.foldMap_object, Json.foldMap_object]
      exact eq_nil_congr_of_perm hperm
  | _, _, .member before after h => by
      have hmember := MemberReorders.faults_iff h
      rw [Json.mapFaults, Json.mapFaults, Json.foldMap_object, Json.foldMap_object,
        List.map_append, List.map_append]
      exact flatten_eq_nil_congr hmember _ _

theorem MemberReorders.faults_iff : ∀ {key : String} {a b : Json}, MemberReorders key a b →
    (foldMember faultsAlgebra key a = [] ↔ foldMember faultsAlgebra key b = [])
  | _, _, _, .branch before after hkey h => by
      have hbranch := Json.Reorders.faults_iff h
      rw [foldMember_faults_branches hkey, foldMember_faults_branches hkey, List.map_append,
        List.map_append]
      exact flatten_eq_nil_congr hbranch _ _
  | _, _, _, .refused hkey h => by
      rw [foldMember_faults_single _ h.items?_eq_none.1,
        foldMember_faults_single _ h.items?_eq_none.2]
      exact iff_of_false (singleFaults_ne_nil hkey _) (singleFaults_ne_nil hkey _)
  | key, _, _, .patterns hkey h => by
      rw [foldMember_faults_single _ rfl, foldMember_faults_single _ rfl, singleFaults,
        singleFaults, hkey]
      rfl
  | _, _, _, .comparisons hkey h => by
      rw [foldMember_faults_single _ h.items?_eq_none.1,
        foldMember_faults_single _ h.items?_eq_none.2, singleFaults_column hkey,
        singleFaults_column hkey]
      exact h.faults_iff

end

/-! What is made of a map that can be read. -/

/-- A fold makes the same of members, patterns and comparisons in any order. -/
structure Json.Algebra.IgnoresOrder (algebra : Json.Algebra α α) : Prop where
  members : ∀ {as bs}, as.Perm bs → algebra.members as = algebra.members bs
  patterns : ∀ {key} {as bs : List (String × Json)}, Text.lower key = "like" → as.Perm bs →
    algebra.single key (.object as) = algebra.single key (.object bs)
  comparisons : ∀ {key} {as bs : List (String × Json)},
    Text.lower key ∉ ["or", "and", "like", "not"] → (Json.object as).compares → as.Perm bs →
    algebra.single key (.object as) = algebra.single key (.object bs)

section

variable {algebra : Json.Algebra α α} (ignores : algebra.IgnoresOrder)

include ignores

mutual

/-- It makes the same of a map without faults after one change of order, wherever in it that is. -/
theorem Json.Algebra.IgnoresOrder.foldMap : ∀ {a b : Json}, a.Reorders b → a.mapFaults = [] →
    a.foldMap algebra = b.foldMap algebra
  | _, _, .members h, _ => by
      rw [foldMap_object, foldMap_object]
      exact ignores.members (h.map _)
  | _, _, .member before after h, hfaults => by
      rw [mapFaults, foldMap_object, List.map_append, List.map_cons] at hfaults
      have hmember := foldMember h (eq_nil_of_flatten hfaults)
      rw [foldMap_object, foldMap_object, List.map_append, List.map_append, List.map_cons,
        List.map_cons, hmember]

theorem Json.Algebra.IgnoresOrder.foldMember : ∀ {key : String} {a b : Json},
    MemberReorders key a b → CriteriaSql.foldMember faultsAlgebra key a = [] →
    CriteriaSql.foldMember algebra key a = CriteriaSql.foldMember algebra key b
  | _, _, _, .branch before after hkey h, hfaults => by
      obtain ⟨combine, hcombine⟩ := foldMember_branches algebra hkey
      rw [foldMember_faults_branches hkey, List.map_append, List.map_cons] at hfaults
      have hbranch := foldMap h (eq_nil_of_flatten hfaults)
      rw [hcombine, hcombine, List.map_append, List.map_append, List.map_cons, List.map_cons,
        hbranch]
  -- A map under such a key, or an operand that is a comparison, would be a fault.
  | _, _, _, .refused hkey h, hfaults => by
      rw [foldMember_faults_single _ h.items?_eq_none.1] at hfaults
      exact absurd hfaults (singleFaults_ne_nil hkey _)
  | _, _, _, .patterns hkey h, _ => by
      rw [foldMember_single _ rfl, foldMember_single _ rfl]
      exact ignores.patterns hkey h
  | _, _, _, .comparisons hkey h, hfaults => by
      rw [foldMember_faults_single _ h.items?_eq_none.1, singleFaults_column hkey] at hfaults
      rw [foldMember_single _ h.items?_eq_none.1, foldMember_single _ h.items?_eq_none.2]
      cases h with
      | members hcomparison h => exact ignores.comparisons hkey hcomparison h
      | operand before after hcomparison h =>
          exact absurd hfaults (operandFaults_ne_nil hcomparison h.compares.1)

end

end

theorem jsonRegexAlgebra_ignoresOrder : jsonRegexAlgebra.IgnoresOrder where
  members := List.Perm.any_eq
  patterns _ h := by
    simp only [jsonRegexAlgebra, Json.members?, Option.getD_some, h.any_eq]
  comparisons _ _ h := by
    simp only [jsonRegexAlgebra, Json.members?, Option.getD_some, h.any_eq]

theorem jsonTruthAlgebra_ignoresOrder (assignment : Atom → Truth) :
    (jsonTruthAlgebra assignment).IgnoresOrder where
  members := Truth.all_perm
  patterns hkey h := by
    simp only [jsonTruthAlgebra, if_pos hkey]
    exact Truth.all_perm (h.map _)
  comparisons hkey hcomparison h := by
    have hlike := Keyword.ne_like_of_notMem hkey
    simp only [jsonTruthAlgebra, if_neg hlike]
    rw [operandTruth, operandTruth, if_pos hcomparison,
      if_pos (compares_perm h ▸ hcomparison)]
    exact Truth.all_perm (h.map _)

/-! Any number of changes, one after another. -/

section

variable {a b : Json} (h : Relation.ReflTransGen Json.Reorders a b)

include h

theorem mapFaults_eq_nil_iff_of_reorders : a.mapFaults = [] ↔ b.mapFaults = [] := by
  induction h with
  | refl => rfl
  | tail _ step ih => exact ih.trans step.faults_iff

/-- A fold that is the same after one change is the same after all of them. -/
theorem Json.Algebra.IgnoresOrder.foldMap_eq {algebra : Json.Algebra α α}
    (ignores : algebra.IgnoresOrder) (hfaults : a.mapFaults = []) :
    a.foldMap algebra = b.foldMap algebra := by
  induction h with
  | refl => rfl
  | tail steps step ih =>
      -- There were no faults before this change either.
      have hbefore := (mapFaults_eq_nil_iff_of_reorders steps).1 hfaults
      exact ih.trans (ignores.foldMap step hbefore)

theorem exists_predicate_iff :
    (∃ predicate, Predicate.ofJson a = .ok predicate) ↔
      ∃ predicate, Predicate.ofJson b = .ok predicate := by
  rw [(reports_map a).ok_iff, (reports_map b).ok_iff, mapFaults_eq_nil_iff_of_reorders h]

end

/-- What is read is written as a condition as long as no like map holds a regular expression. -/
theorem exists_condition_iff {json : Json} :
    (∃ predicate sql, Predicate.ofJson json = .ok predicate ∧ predicate.sql = .ok sql) ↔
      (∃ predicate, Predicate.ofJson json = .ok predicate) ∧ json.hasRegex = false := by
  constructor
  · rintro ⟨predicate, sql, hread, hsql⟩
    rw [hasRegex_ofJson hread]
    exact ⟨⟨predicate, hread⟩, (Predicate.sql_eq_ok_iff.1 hsql).1⟩
  · rintro ⟨⟨predicate, hread⟩, hregex⟩
    rw [hasRegex_ofJson hread] at hregex
    exact ⟨predicate, _, hread, Predicate.sql_eq_ok_iff.2 ⟨hregex, rfl⟩⟩

/-- Criteria are read alike, faults included, in whatever order their members come and whatever
other members there are. A filter in which maps, like maps and lists of comparisons are reordered,
at any depth, is read and written as a condition if and only if it was before, and the condition
has the same truth value, whatever the comparisons are worth. -/
theorem key_order_ignored :
    (∀ a b : OrderedMap Json,
      (a.entries.filter fun member => member.1 ∈ Criteria.keys).Perm
        (b.entries.filter fun member => member.1 ∈ Criteria.keys) →
      Criteria.ofJson (.object a.entries) = Criteria.ofJson (.object b.entries)) ∧
    ∀ a b : Json, Relation.ReflTransGen Json.Reorders a b →
      ((∃ predicate, Predicate.ofJson a = .ok predicate) ↔
        ∃ predicate, Predicate.ofJson b = .ok predicate) ∧
      ((∃ predicate sql, Predicate.ofJson a = .ok predicate ∧ predicate.sql = .ok sql) ↔
        ∃ predicate sql, Predicate.ofJson b = .ok predicate ∧ predicate.sql = .ok sql) ∧
      ∀ p q, Predicate.ofJson a = .ok p → Predicate.ofJson b = .ok q →
        ∀ assignment, p.truth assignment = q.truth assignment := by
  constructor
  · intro a b h
    exact Criteria.ofMembers_congr fun key => Criteria.given?_eq_of_perm h
  · intro a b h
    have haccepted := exists_predicate_iff h
    refine ⟨haccepted, ?_, ?_⟩
    · rw [exists_condition_iff, exists_condition_iff, ← haccepted]
      refine and_congr_right fun hread => ?_
      have hregex : a.hasRegex = b.hasRegex :=
        jsonRegexAlgebra_ignoresOrder.foldMap_eq h ((reports_map a).ok_iff.1 hread)
      rw [hregex]
    · intro p q hp hq assignment
      have htruth : a.truth assignment = b.truth assignment :=
        (jsonTruthAlgebra_ignoresOrder assignment).foldMap_eq h ((reports_map a).ok_iff.1 ⟨p, hp⟩)
      rw [← truth_ofJson assignment hp, ← truth_ofJson assignment hq, htruth]

/-- The filter is refused before the limit is, whichever is written first. In another filter the
branch of `or`, the comparisons in it, the like map and the whole change their order. -/
theorem key_order_ignored_nested :
    Criteria.ofJson (.object [("limit", .string ""), ("note", .null),
      ("where", .object [("Not", .null)])]) =
      Criteria.ofJson (.object [("where", .object [("Not", .null)]), ("limit", .string "")]) ∧
    ∀ assignment,
      Predicate.truth assignment [.any [[.column "x" (.equals .null),
          .column "y" (.compare [(.greaterThan, .int 2), (.lessThan, .int 9)])]],
        .like [("m", .text "a%"), ("n", .text "b")]] =
      Predicate.truth assignment [.like [("n", .text "b"), ("m", .text "a%")],
        .any [[.column "y" (.compare [(.lessThan, .int 9), (.greaterThan, .int 2)]),
          .column "x" (.equals .null)]]] := by
  constructor
  · exact key_order_ignored.1
      ⟨[("limit", .string ""), ("note", .null), ("where", .object [("Not", .null)])], by decide⟩
      ⟨[("where", .object [("Not", .null)]), ("limit", .string "")], by decide⟩ (.swap _ _ [])
  · have hreorders : Relation.ReflTransGen Json.Reorders
        (.object [("or", .array [.object [("x", .null),
            ("y", .object [(">", .number (.integer 2)), ("<", .number (.integer 9))])]]),
          ("Like", .object [("m", .string "a%"), ("n", .string "b")])])
        (.object [("Like", .object [("n", .string "b"), ("m", .string "a%")]),
          ("or", .array [.object [
            ("y", .object [("<", .number (.integer 9)), (">", .number (.integer 2))]),
            ("x", .null)]])]) := by
      have hkey : Text.lower "or" ∈ ["or", "and"] := by decide
      have hbranch : Json.Reorders
          (.object [("x", .null),
            ("y", .object [(">", .number (.integer 2)), ("<", .number (.integer 9))])])
          (.object [("y", .object [(">", .number (.integer 2)), ("<", .number (.integer 9))]),
            ("x", .null)]) := .members (.swap _ _ [])
      have hcomparisons : MemberReorders "y"
          (.object [(">", .number (.integer 2)), ("<", .number (.integer 9))])
          (.object [("<", .number (.integer 9)), (">", .number (.integer 2))]) :=
        .comparisons (by decide) (.members (by decide) (.swap _ _ []))
      have hpatterns : MemberReorders "Like"
          (.object [("m", .string "a%"), ("n", .string "b")])
          (.object [("n", .string "b"), ("m", .string "a%")]) :=
        .patterns (by decide) (.swap _ _ [])
      apply Relation.ReflTransGen.head (.member [] _ (.branch [] [] hkey hbranch))
      apply Relation.ReflTransGen.head
        (.member [] _ (.branch [] [] hkey (.member [] _ hcomparisons)))
      apply Relation.ReflTransGen.head (.member [_] [] hpatterns)
      exact .single (.members (.swap _ _ []))
    exact (key_order_ignored.2 _ _ hreorders).2.2 _ _ rfl rfl

end CriteriaSql
