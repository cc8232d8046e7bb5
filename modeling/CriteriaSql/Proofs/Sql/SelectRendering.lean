import CriteriaSql.Proofs.Sql.Rendering
import CriteriaSql.Statement.Basic

/-! The pieces of which a plain select is written. -/

namespace CriteriaSql

open Sql (Piece plain written)

def wherePieces : Option Predicate → List Piece
  | none => []
  | some predicate => plain "WHERE " ++ predicate.pieces ++ plain " "

namespace Criteria

def hasRegex (criteria : Criteria) : Bool :=
  criteria.filter.any Predicate.hasRegex

def plainPieces (table : String) (criteria : Criteria) : List Piece :=
  plain ("SELECT " ++ topSql criteria.limit ++ "* FROM " ++ table ++ " ") ++
    wherePieces criteria.filter ++ plain (orderSql criteria.sort)

theorem whereSql_eq (filter : Option Predicate) :
    whereSql filter =
      if filter.any Predicate.hasRegex then .error .regexInLike
      else .ok (String.ofList (written (wherePieces filter))) := by
  cases filter with
  | none => rfl
  | some predicate =>
      have htext : "WHERE " ++ String.ofList (written predicate.pieces) ++ " " =
          String.ofList (written (wherePieces (some predicate))) := by
        rw [← String.toList_inj]
        simp [wherePieces]
      rw [whereSql, predicate.sql_eq, ite_error_bind, htext, Option.any_some]
      rfl

theorem validate_of_not_isAggregate {criteria : Criteria} (h : criteria.isAggregate = false) :
    criteria.validate = .ok () := by
  rw [validate, h, Bool.false_and]
  rfl

theorem select_of_not_isAggregate (table : String) {criteria : Criteria}
    (h : criteria.isAggregate = false) :
    criteria.select table =
      if criteria.hasRegex then .error .regexInLike
      else .ok ⟨String.ofList (written (criteria.plainPieces table)), []⟩ := by
  have htext : "SELECT " ++ topSql criteria.limit ++ "* FROM " ++ table ++ " " ++
      String.ofList (written (wherePieces criteria.filter)) ++ orderSql criteria.sort =
      String.ofList (written (criteria.plainPieces table)) := by
    rw [← String.toList_inj]
    simp [plainPieces]
  have hplain : plainSql table criteria =
      if criteria.hasRegex then .error .regexInLike
      else .ok (String.ofList (written (criteria.plainPieces table))) := by
    rw [plainSql, whereSql_eq, ite_error_bind, htext]
    rfl
  rw [select, validate_of_not_isAggregate h, h]
  show (plainSql table criteria >>= fun text => Except.ok (Logged.mk text [])) = _
  rw [hplain, ite_error_bind]

/-- The text of a select without the warnings that come with it. -/
theorem map_value_select (table : String) (criteria : Criteria) :
    (criteria.select table).map Logged.value =
      if criteria.isAggregate then
        if criteria.hasCalculation then .ok (criteria.aggregateSql table)
        else .error .groupWithoutCalculation
      else if criteria.hasRegex then .error .regexInLike
      else .ok (String.ofList (written (criteria.plainPieces table))) := by
  cases haggregate : criteria.isAggregate with
  | false =>
      rw [select_of_not_isAggregate table haggregate]
      cases criteria.hasRegex <;> rfl
  | true =>
      unfold select validate
      rw [haggregate]
      cases criteria.hasCalculation <;> rfl

theorem select_eq_ok_iff {table : String} {criteria : Criteria} {sql : Logged String}
    (h : criteria.isAggregate = false) :
    criteria.select table = .ok sql ↔
      criteria.hasRegex = false ∧
        sql = ⟨String.ofList (written (criteria.plainPieces table)), []⟩ := by
  rw [select_of_not_isAggregate table h]
  cases criteria.hasRegex with
  | true => simp
  | false => simp [eq_comm]

end Criteria

end CriteriaSql
