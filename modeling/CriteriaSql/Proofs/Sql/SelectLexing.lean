import CriteriaSql.Proofs.Sql.Isolation
import CriteriaSql.Proofs.Sql.Lexing

/-! The tokens of selects. -/

namespace CriteriaSql

open Sql (Fragment Piece Token lexed? plain tokens? written)
open Text (separated)

namespace Criteria

/-- Zero is no limit. -/
def top (limit : Option Nat) : Option Nat :=
  limit.filter (0 < ·)

def whereTokens : Option Predicate → List Token
  | none => []
  | some predicate => .word "WHERE" :: predicate.tokens

def entryTokens (entry : String × SortOrder) : List Token :=
  [.word entry.1, .word entry.2.sql]

def orderTokens (sort : List (String × SortOrder)) : List Token :=
  if sort.isEmpty then []
  else .word "ORDER" :: .word "BY" :: [Token.comma].intercalate (sort.map entryTokens)

/-- All that follows the name of the table. -/
def clauseTokens (criteria : Criteria) : List Token :=
  whereTokens criteria.filter ++ orderTokens criteria.sort

def plainTokens (table : String) (criteria : Criteria) : List Token :=
  .word "SELECT" :: (Sql.Select.topTokens (top criteria.limit) ++
    (.star :: .word "FROM" :: .word table :: criteria.clauseTokens))

end Criteria

theorem Sql.plain_separated (separator : String) (parts : List String) :
    plain (separated separator parts) = (plain separator).intercalate (parts.map plain) := by
  rw [plain, Text.toList_separated, Text.map_intercalate, List.map_map]
  rfl

/-! Every part of a select is followed by a blank. -/

theorem Sql.tokens?_part {ps qs : List Piece} {ts us : List Token} (hp : tokens? ps = some ts)
    (hq : tokens? qs = some us) : tokens? (ps ++ (plain " " ++ qs)) = some (ts ++ us) := by
  have hblank : tokens? (plain " ") = some [] := rfl
  exact tokens?_around (by decide) hp hblank hq

theorem Sql.tokens?_blank {ps : List Piece} {ts : List Token} (h : tokens? ps = some ts) :
    tokens? (ps ++ plain " ") = some ts := by
  have hnone : tokens? [] = some [] := rfl
  have hpart := tokens?_part h hnone
  rwa [List.append_nil, List.append_nil] at hpart

namespace Criteria

theorem tokens?_topSql (limit : Option Nat) :
    tokens? (plain (topSql limit)) = some (Sql.Select.topTokens (top limit)) := by
  unfold topSql
  split
  · rfl
  · rfl
  · rename_i n hn
    have htop : top (some n) = some n := by
      rw [top, Option.filter_some, if_pos]
      simpa [Nat.pos_iff_ne_zero] using hn
    have hword : tokens? (plain "TOP ") = some [.word "TOP"] := rfl
    have hnumber := Sql.tokens?_number (Sql.isNumeral_natToString n)
    rw [htop, Sql.plain_append, Sql.plain_append]
    exact Sql.tokens?_blank (Sql.tokens?_before (by decide) hword hnumber)

theorem tokens?_orderSql {sort : List (String × SortOrder)}
    (h : ∀ entry ∈ sort, Sql.isWord entry.1.toList) :
    tokens? (plain (orderSql sort)) = some (orderTokens sort) := by
  unfold orderSql orderTokens
  by_cases hsort : sort.isEmpty = true
  · rw [if_pos hsort, if_pos hsort]
    rfl
  · have hentry : ∀ entry ∈ sort, tokens? (plain (entry.1 ++ " " ++ entry.2.sql)) =
        some (entryTokens entry) := by
      intro entry hmem
      have horder : tokens? (plain entry.2.sql) = some [.word entry.2.sql] := by
        cases entry.2 <;> rfl
      rw [Sql.plain_append, Sql.plain_append, List.append_assoc]
      exact Sql.tokens?_part (Sql.tokens?_word (h entry hmem)) horder
    have hentries : tokens? ((plain ", ").intercalate
        (sort.map fun entry => plain (entry.1 ++ " " ++ entry.2.sql))) =
        some ([Token.comma].intercalate (sort.map entryTokens)) :=
      Sql.tokens?_intercalate (by decide) rfl hentry
    have hwords : tokens? (plain "ORDER BY ") = some [.word "ORDER", .word "BY"] := rfl
    rw [if_neg hsort, if_neg hsort, Sql.plain_append, Sql.plain_append, Sql.plain_separated,
      List.map_map]
    exact Sql.tokens?_blank (Sql.tokens?_before (by decide) hwords hentries)

theorem tokens?_clauses {filter : Option Predicate} {sort : List (String × SortOrder)}
    (hfilter : ∀ predicate ∈ filter, ∀ column ∈ predicate.columns, Sql.isWord column.toList)
    (hsort : ∀ entry ∈ sort, Sql.isWord entry.1.toList) :
    tokens? (wherePieces filter ++ plain (orderSql sort)) =
      some (whereTokens filter ++ orderTokens sort) := by
  have horder := tokens?_orderSql hsort
  cases filter with
  | none => exact horder
  | some predicate =>
      have hpredicate := Predicate.tokens?_pieces (hfilter predicate rfl)
      have hword : tokens? (plain "WHERE ") = some [.word "WHERE"] := rfl
      rw [wherePieces, List.append_assoc]
      exact Sql.tokens?_part (Sql.tokens?_before (by decide) hword hpredicate) horder

theorem tokens?_plainPieces {table : String} {criteria : Criteria}
    (htable : Sql.isWord table.toList)
    (hcolumns : ∀ column ∈ criteria.columns, Sql.isWord column.toList) :
    tokens? (criteria.plainPieces table) = some (criteria.plainTokens table) := by
  obtain ⟨hfilter, hsort⟩ := forall_mem_columns.1 hcolumns
  have hselect : tokens? (plain "SELECT ") = some [.word "SELECT"] := rfl
  have hfrom : tokens? (plain "* FROM ") = some [.star, .word "FROM"] := rfl
  have hclauses := Sql.tokens?_part (Sql.tokens?_word htable) (tokens?_clauses hfilter hsort)
  have htop := Sql.tokens?_around (by decide) (tokens?_topSql criteria.limit) hfrom hclauses
  rw [plainPieces, Sql.plain_append, Sql.plain_append, Sql.plain_append, Sql.plain_append]
  simp only [List.append_assoc]
  exact Sql.tokens?_before (by decide) hselect htop

/-- The text of a plain select consists of these tokens. -/
theorem lexed?_plain {table : String} {criteria : Criteria} (htable : Sql.isWord table.toList)
    (hcolumns : ∀ column ∈ criteria.columns, Sql.isWord column.toList) :
    lexed? (String.ofList (written (criteria.plainPieces table))) =
      some (criteria.plainTokens table) := by
  have hfragment : Fragment (criteria.plainPieces table) :=
    fragment_plainPieces (Sql.quote_not_mem_of_isWord htable) fun column hcolumn =>
      Sql.quote_not_mem_of_isWord (hcolumns column hcolumn)
  rw [lexed?, Sql.pieces?_ofList_written hfragment, Option.bind_some,
    tokens?_plainPieces htable hcolumns]

end Criteria

end CriteriaSql
