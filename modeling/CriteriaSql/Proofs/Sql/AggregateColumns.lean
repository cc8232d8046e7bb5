import CriteriaSql.Proofs.Sql.AggregateLexing
import CriteriaSql.Proofs.Sql.Reader

/-!
An aggregate select says which columns are grouped and which are calculated, in their order, and
nothing else.
-/

namespace CriteriaSql

open Sql (Function Token isWord plain tokens?)

theorem Sql.Function.text_injective {f g : Function} (h : f.text = g.text) : f = g := by
  have hread := congrArg Function.ofText? h
  rw [f.ofText?_text, g.ofText?_text] at hread
  exact Option.some.inj hread

namespace Output

/-- What is calculated, if the column is no grouped one. -/
def function? : Output → Option Function
  | grouped _ => none
  | calculated function _ => some function

theorem tokens_injective {a b : Output} (h : a.tokens = b.tokens) : a = b := by
  cases a with
  | grouped column =>
      cases b with
      | grouped other =>
          rw [Token.word.inj (List.cons.inj h).1]
      | calculated function other => simp [tokens] at h
  | calculated function column =>
      cases b with
      | grouped other => simp [tokens] at h
      | calculated g other =>
          simp only [tokens, List.cons.injEq, Token.word.injEq] at h
          rw [Sql.Function.text_injective h.1, h.2.2.1]

theorem comma_notMem_tokens (output : Output) : Token.comma ∉ output.tokens := by
  cases output <;> simp [tokens]

end Output

namespace Criteria

/-- The columns of one kind. -/
def columnsOfKind (criteria : Criteria) : Option Function → List String
  | none => criteria.groupBy
  | some .sum => criteria.sum
  | some .average => criteria.average
  | some .max => criteria.max
  | some .min => criteria.min

theorem filter_outputs (criteria : Criteria) (kind : Option Function) :
    (criteria.outputs.filter (·.function? = kind)).map Output.column =
      criteria.columnsOfKind kind := by
  -- In each list all outputs are of one kind, so it is kept as a whole or left out.
  rcases kind with _ | function
  · simp [outputs, columnsOfKind, List.filter_map, Function.comp_def, Output.function?,
      Output.column]
  · cases function <;>
      simp [outputs, columnsOfKind, List.filter_map, Function.comp_def, Output.function?,
        Output.column]

theorem outputs_eq_iff {a b : Criteria} :
    a.outputs = b.outputs ↔ a.groupBy = b.groupBy ∧ a.sum = b.sum ∧ a.average = b.average ∧
      a.max = b.max ∧ a.min = b.min := by
  constructor
  · intro h
    have hkind : ∀ kind, a.columnsOfKind kind = b.columnsOfKind kind := by
      intro kind
      rw [← filter_outputs, h, filter_outputs]
    exact ⟨hkind none, hkind (some .sum), hkind (some .average), hkind (some .max),
      hkind (some .min)⟩
  · rintro ⟨hgroupBy, hsum, haverage, hmax, hmin⟩
    rw [outputs, outputs, hgroupBy, hsum, haverage, hmax, hmin]

/-- Between its first word and the table an aggregate select has its columns and nothing else. -/
theorem aggregateSql_eq_iff (table : String) {a b : Criteria} :
    a.aggregateSql table = b.aggregateSql table ↔
      Text.separated ", " a.aggregateColumns = Text.separated ", " b.aggregateColumns := by
  rw [aggregateSql, aggregateSql, ← String.toList_inj, ← String.toList_inj]
  simp

/-- The columns are read apart again: no token of one of them is a comma. -/
theorem outputs_eq_of_separated {a b : Criteria} (ha : a.isAggregate) (hb : b.isAggregate)
    (hwords : ∀ output ∈ a.outputs, isWord output.column.toList)
    (hothers : ∀ output ∈ b.outputs, isWord output.column.toList)
    (h : Text.separated ", " a.aggregateColumns = Text.separated ", " b.aggregateColumns) :
    a.outputs = b.outputs := by
  have hsplit : ∀ {criteria : Criteria}, criteria.isAggregate →
      ([Token.comma].intercalate (criteria.outputs.map Output.tokens)).splitOn .comma =
        criteria.outputs.map Output.tokens := by
    intro criteria hcriteria
    apply List.splitOn_intercalate
    · intro part hpart
      obtain ⟨output, _, rfl⟩ := List.mem_map.1 hpart
      exact output.comma_notMem_tokens
    · simpa using outputs_ne_nil hcriteria
  have htokens := tokens?_aggregateColumns hwords
  rw [h, tokens?_aggregateColumns hothers] at htokens
  have hparts := congrArg (List.splitOn Token.comma) (Option.some.inj htokens)
  rw [hsplit ha, hsplit hb] at hparts
  exact ((List.map_injective_iff.2 fun _ _ => Output.tokens_injective) hparts).symm

/-- Whatever the filter is, it is not looked at. -/
theorem select_of_validate (table : String) {criteria : Criteria} (h : criteria.isAggregate)
    (hvalid : criteria.validate = .ok ()) :
    ∃ sql, criteria.select table = .ok sql ∧ sql.value = criteria.aggregateSql table := by
  rw [select, hvalid, if_pos h]
  exact ⟨_, rfl, rfl⟩

end Criteria

/-- Aggregate selects from a table are the same text if and only if the same columns are grouped
and calculated, each list in the same order. Filter, order and limit have no part in it, not even a
filter for which there is no condition. -/
theorem aggregate_select_eq_iff (table : String) {a b : Criteria} (ha : a.isAggregate)
    (hb : b.isAggregate) (hvalid : a.validate = .ok ()) (hvalid' : b.validate = .ok ())
    (hwords : ∀ output ∈ a.outputs, isWord output.column.toList)
    (hwords' : ∀ output ∈ b.outputs, isWord output.column.toList) :
    ∃ s t, a.select table = .ok s ∧ b.select table = .ok t ∧
      (s.value = t.value ↔ a.groupBy = b.groupBy ∧ a.sum = b.sum ∧ a.average = b.average ∧
        a.max = b.max ∧ a.min = b.min) ∧
      ∀ filter sort limit, ∃ other, { a with filter, sort, limit }.select table = .ok other ∧
        other.value = s.value := by
  obtain ⟨s, hs, hvalue⟩ := Criteria.select_of_validate table ha hvalid
  obtain ⟨t, ht, hvalue'⟩ := Criteria.select_of_validate table hb hvalid'
  refine ⟨s, t, hs, ht, ?_, fun filter sort limit => ?_⟩
  · rw [hvalue, hvalue', Criteria.aggregateSql_eq_iff, ← Criteria.outputs_eq_iff]
    constructor
    · exact Criteria.outputs_eq_of_separated ha hb hwords hwords'
    · intro h
      rw [Criteria.aggregateColumns_eq, Criteria.aggregateColumns_eq, h]
  · obtain ⟨other, hother, htext⟩ :=
      @Criteria.select_of_validate table { a with filter, sort, limit } ha hvalid
    exact ⟨other, hother, htext.trans hvalue.symm⟩

/-- There is no condition for the filter, and the select is that of the same columns without it. -/
theorem aggregate_select_eq_unfiltered :
    Predicate.sql [.like [("name", .regex "^bo")]] = .error .regexInLike ∧
      ∃ s t, { Criteria.empty with
            filter := some [.like [("name", .regex "^bo")]], groupBy := ["region", "year"],
            sum := ["year", "SUM"], max := ["year"], limit := some 3 }.select "T, U" = .ok s ∧
        { Criteria.empty with
            groupBy := ["region", "year"], sum := ["year", "SUM"],
            max := ["year"] }.select "T, U" = .ok t ∧
        s.value = t.value := by
  obtain ⟨s, t, hs, ht, hiff, _⟩ := aggregate_select_eq_iff "T, U"
    (a := { Criteria.empty with
      filter := some [.like [("name", .regex "^bo")]], groupBy := ["region", "year"],
      sum := ["year", "SUM"], max := ["year"], limit := some 3 })
    (b := { Criteria.empty with
      groupBy := ["region", "year"], sum := ["year", "SUM"], max := ["year"] })
    rfl rfl rfl rfl (by decide) (by decide)
  exact ⟨rfl, s, t, hs, ht, hiff.2 ⟨rfl, rfl, rfl, rfl, rfl⟩⟩

end CriteriaSql
