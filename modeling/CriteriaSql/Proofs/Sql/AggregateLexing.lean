import CriteriaSql.Proofs.Sql.SelectLexing

/-! The tokens of aggregate selects. -/

namespace CriteriaSql

open Sql (Fragment Function Item Token isWord lexed? pieces? plain tokens?)

/-- What a column of an aggregate select holds. -/
inductive Output where
  | grouped (column : String)
  | calculated (function : Function) (column : String)
  deriving DecidableEq

namespace Output

/-- The column that it comes from, whose name it bears. -/
def column : Output → String
  | grouped column | calculated _ column => column

def text : Output → String
  | grouped column => column
  | calculated function column => Criteria.calculation function.text column

def tokens : Output → List Token
  | grouped column => [.word column]
  | calculated function column =>
      [.word function.text, .opening, .word column, .closing, .word "AS", .word column]

/-- The item of the grammar. -/
def item (output : Output) (h : Sql.isName output.column) : Item :=
  match output, h with
  | grouped column, h => .column ⟨column, h⟩
  | calculated function column, h => .calculation function ⟨column, h⟩ ⟨column, h⟩

theorem tokens_item {output : Output} (h : Sql.isName output.column) :
    (output.item h).tokens = output.tokens := by
  cases output <;> rfl

theorem tokens?_text {output : Output} (h : isWord output.column.toList) :
    tokens? (plain output.text) = some output.tokens := by
  cases output with
  | grouped column => exact Sql.tokens?_word h
  | calculated function column =>
      have hfunction : isWord function.text.toList := by
        cases function <;> decide
      have hopening : tokens? (plain "(") = some [.opening] := rfl
      have hclosing : tokens? (plain ") AS ") = some [.closing, .word "AS"] := rfl
      have hcolumn := Sql.tokens?_word h
      have hargument := Sql.tokens?_around (by decide) hcolumn hclosing hcolumn
      rw [text, Criteria.calculation, Sql.plain_append, Sql.plain_append, Sql.plain_append,
        Sql.plain_append, List.append_assoc, List.append_assoc, List.append_assoc]
      exact Sql.tokens?_around (by decide) (Sql.tokens?_word hfunction) hopening hargument

theorem fragment_text {output : Output} (h : isWord output.column.toList) :
    Fragment (plain output.text) := by
  have hcolumn : Fragment (plain output.column) := .plain (Sql.quote_not_mem_of_isWord h)
  cases output with
  | grouped column => exact hcolumn
  | calculated function column =>
      have hfunction : Fragment (plain function.text) := by
        cases function <;> exact .plain (by decide)
      rw [text, Criteria.calculation, Sql.plain_append, Sql.plain_append, Sql.plain_append,
        Sql.plain_append]
      exact (((hfunction.append (.plain (by decide))).append hcolumn).append
        (.plain (by decide))).append hcolumn

end Output

namespace Criteria

def outputs (criteria : Criteria) : List Output :=
  criteria.groupBy.map .grouped ++ criteria.sum.map (.calculated .sum) ++
    criteria.average.map (.calculated .average) ++ criteria.max.map (.calculated .max) ++
    criteria.min.map (.calculated .min)

theorem aggregateColumns_eq (criteria : Criteria) :
    criteria.aggregateColumns = criteria.outputs.map Output.text := by
  simp only [aggregateColumns, outputs, List.map_append, List.map_map]
  rw [show Output.text ∘ Output.grouped = id from rfl, List.map_id]
  rfl

theorem outputs_eq_nil_iff {criteria : Criteria} :
    criteria.outputs = [] ↔ criteria.isAggregate = false := by
  simp only [outputs, isAggregate, hasCalculation, List.append_eq_nil_iff, List.map_eq_nil_iff,
    Bool.or_eq_false_iff, Bool.not_eq_false', Bool.and_eq_true, List.isEmpty_iff, and_assoc]
  rw [and_comm (a := criteria.max = [])]

theorem outputs_ne_nil {criteria : Criteria} (h : criteria.isAggregate) :
    criteria.outputs ≠ [] := by
  rw [Ne, outputs_eq_nil_iff, h]
  decide

def aggregateTokens (table : String) (criteria : Criteria) : List Token :=
  .word "SELECT" :: ([Token.comma].intercalate (criteria.outputs.map Output.tokens) ++
    [.word "FROM", .word table])

section

variable {table : String} {criteria : Criteria} (htable : isWord table.toList)
    (hcolumns : ∀ output ∈ criteria.outputs, isWord output.column.toList)

include hcolumns

theorem tokens?_aggregateColumns :
    tokens? (plain (Text.separated ", " criteria.aggregateColumns)) =
      some ([Token.comma].intercalate (criteria.outputs.map Output.tokens)) := by
  rw [aggregateColumns_eq, Sql.plain_separated, List.map_map]
  exact Sql.tokens?_intercalate (by decide) rfl fun output houtput =>
    Output.tokens?_text (hcolumns output houtput)

include htable

theorem tokens?_aggregate :
    tokens? (plain (criteria.aggregateSql table)) = some (criteria.aggregateTokens table) := by
  have hselect : tokens? (plain "SELECT ") = some [.word "SELECT"] := rfl
  have hfrom : tokens? (plain " FROM ") = some [.word "FROM"] := rfl
  have htail := Sql.tokens?_around (by decide) (tokens?_aggregateColumns hcolumns) hfrom
    (Sql.tokens?_blank (Sql.tokens?_word htable))
  rw [aggregateSql, Sql.plain_append, Sql.plain_append, Sql.plain_append, Sql.plain_append]
  simp only [List.append_assoc]
  exact Sql.tokens?_before (by decide) hselect htail

theorem fragment_aggregate : Fragment (plain (criteria.aggregateSql table)) := by
  have hcomma : Fragment (plain ", ") := .plain (by decide)
  have hitems : Fragment ((plain ", ").intercalate (criteria.outputs.map fun output =>
      plain output.text)) :=
    .intercalate_map hcomma fun output houtput => Output.fragment_text (hcolumns output houtput)
  have hname : Fragment (plain table) := .plain (Sql.quote_not_mem_of_isWord htable)
  rw [aggregateSql, Sql.plain_append, Sql.plain_append, Sql.plain_append, Sql.plain_append,
    aggregateColumns_eq, Sql.plain_separated, List.map_map]
  exact ((((Fragment.plain (by decide)).append hitems).append (.plain (by decide))).append
    hname).append (.plain (by decide))

/-- The text of an aggregate select consists of these tokens. -/
theorem lexed?_aggregate :
    lexed? (criteria.aggregateSql table) = some (criteria.aggregateTokens table) := by
  have hpieces : pieces? (criteria.aggregateSql table) =
      some (plain (criteria.aggregateSql table)) := by
    have hread := Sql.pieces?_ofList_written (fragment_aggregate htable hcolumns)
    rwa [Sql.written_plain, String.ofList_toList] at hread
  rw [lexed?, hpieces, Option.bind_some, tokens?_aggregate htable hcolumns]

end

end Criteria

end CriteriaSql
