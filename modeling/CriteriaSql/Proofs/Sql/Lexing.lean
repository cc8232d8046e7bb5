import CriteriaSql.Proofs.Sql.Grammar
import CriteriaSql.Proofs.Sql.SelectRendering

/-! The tokens of rendered conditions and selects. -/

namespace CriteriaSql

open Sql (Atom Operator Piece Token Value plain tokens?)

/-! What the conditions say. -/

namespace Literal

def bareValue (value : Literal) : Value :=
  if value.sql = "NULL" then .null else .number value.sql

/-- The value that is written for a literal. -/
def value (literal : Literal) : Value :=
  literal.content?.elim literal.bareValue .text

/-- The pattern that is written in a like map. -/
def decodedValue (literal : Literal) : Value :=
  literal.content?.elim literal.bareValue fun content => .text (decodePercent content)

end Literal

def equalityAtom (column : String) (value : Literal) : Atom :=
  if value.isNull then .isNull column else .compare column .equal value.value

def likeAtom (column : String) (pattern : Literal) : Atom :=
  .compare column .like pattern.decodedValue

def wildcardAtom (column before : String) (value : Literal) (after : String) : Atom :=
  .compare column .like (.text (before.toList ++ value.pattern ++ after.toList))

def Comparator.atom (comparator : Comparator) (column : String) (value : Literal) : Atom :=
  match comparator with
  | lessThan => .compare column .less value.value
  | lessThanOrEqual => .compare column .lessOrEqual value.value
  | greaterThan => .compare column .greater value.value
  | greaterThanOrEqual => .compare column .greaterOrEqual value.value
  | not => if value.isNull then .isNotNull column else .compare column .notEqual value.value
  | like => wildcardAtom column "" value ""
  | contains => wildcardAtom column "%" value "%"
  | startsWith => wildcardAtom column "" value "%"
  | endsWith => wildcardAtom column "%" value ""

def conjunction (parts : List (List Token)) : List Token :=
  [Token.word "AND"].intercalate parts

def disjunction (parts : List (List Token)) : List Token :=
  [Token.word "OR"].intercalate parts

def inList (column : String) (values : List Value) : List Token :=
  .word column :: .word "IN" :: .opening ::
    ([Token.comma].intercalate (values.map fun value => [value.token]) ++ [.closing])

def bracketedTokens (tokens : List Token) : List Token :=
  .opening :: (tokens ++ [.closing])

def Condition.tokens (column : String) : Condition → List Token
  | equals value => (equalityAtom column value).tokens
  | isIn values => inList column (values.map Literal.value)
  | compare comparisons =>
      conjunction (comparisons.map fun entry => (entry.1.atom column entry.2).tokens)

def tokensAlgebra : Clause.Algebra (List Token) (List Token) where
  clauses := conjunction
  any branches := bracketedTokens (disjunction branches)
  all branches := bracketedTokens (conjunction branches)
  like patterns := conjunction (patterns.map fun entry => (likeAtom entry.1 entry.2).tokens)
  column name condition := condition.tokens name

def Clause.tokens (clause : Clause) : List Token :=
  clause.fold tokensAlgebra

def Predicate.tokens (predicate : Predicate) : List Token :=
  predicate.fold tokensAlgebra

/-! Values. -/

theorem Literal.tokens?_bare {literal : Literal} (h : literal.content? = none) :
    tokens? (plain literal.sql) = some [literal.bareValue.token] := by
  unfold bareValue
  -- What is bare is a numeral, or else the one word that is a value.
  by_cases hnull : literal.sql = "NULL"
  · rw [if_pos hnull, hnull]
    rfl
  · rw [if_neg hnull]
    apply Sql.tokens?_number
    exact (bare_of_content? h).resolve_left hnull

theorem Literal.tokens?_pieces (literal : Literal) :
    tokens? literal.pieces = some [literal.value.token] := by
  unfold pieces value
  cases h : literal.content? with
  | none => exact tokens?_bare h
  | some content => exact Sql.tokens?_literal content

theorem Literal.tokens?_decodedPieces (literal : Literal) :
    tokens? literal.decodedPieces = some [literal.decodedValue.token] := by
  unfold decodedPieces decodedValue
  cases h : literal.content? with
  | none => exact tokens?_bare h
  | some content => exact Sql.tokens?_literal _

theorem Literal.isRunChar_bare {literal : Literal} (h : literal.content? = none) :
    ∀ c ∈ literal.sql.toList, Sql.isRunChar c := by
  rcases bare_of_content? h with hnull | hnumeral
  · have hletters : "NULL".toList.all Sql.isRunChar := by decide
    rw [hnull]
    exact List.all_eq_true.1 hletters
  · exact Sql.isRunChar_of_isNumeral hnumeral

theorem Literal.isOperator_head?_pieces (literal : Literal) :
    ∀ p ∈ literal.pieces.head?, p.isOperator = false := by
  intro p hp
  have hmem := List.mem_of_head? hp
  unfold pieces at hmem
  cases h : literal.content? with
  | some content =>
      rw [h] at hmem
      rw [List.mem_singleton.1 hmem]
      rfl
  | none =>
      rw [h] at hmem
      obtain ⟨c, hc, rfl⟩ := List.mem_map.1 hmem
      exact Sql.isOperator_of_isRun (isRunChar_bare h c hc)

/-! Conditions on a column whose name is a word. -/

section

variable {column : String} (hcolumn : Sql.isWord column.toList)

include hcolumn

theorem isRun_of_mem_plain : ∀ p ∈ plain column, p.isRun := by
  intro p hp
  obtain ⟨c, hc, rfl⟩ := List.mem_map.1 hp
  simp [Piece.isRun, Sql.isRunChar, Sql.isInner_of_isWord hcolumn c hc]

theorem tokens?_compared {text : String} {operator : Operator}
    (htext : tokens? (plain text) = some [operator.token])
    (hoperator : ∀ p ∈ plain text, p.isOperator) (value : Literal) :
    tokens? (comparedPieces column text value) =
      some (Atom.compare column operator value.value).tokens := by
  have hapart : Sql.Apart (plain column) (plain text ++ value.pieces) := by
    apply Sql.Apart.of_run (isRun_of_mem_plain hcolumn)
    intro q hq
    have hne : plain text ≠ [] := by
      intro hnil
      rw [hnil] at htext
      cases htext
    rw [List.head?_append_of_ne_nil _ hne] at hq
    exact Sql.isRun_of_isOperator (hoperator q (List.mem_of_head? hq))
  have hvalue : tokens? (plain text ++ value.pieces) =
      some ([operator.token] ++ [value.value.token]) :=
    Sql.tokens?_append htext value.tokens?_pieces
      (.of_operator hoperator value.isOperator_head?_pieces)
  rw [comparedPieces, Sql.plain_append, List.append_assoc]
  exact Sql.tokens?_append (Sql.tokens?_word hcolumn) hvalue hapart

/-- The words after a column, which begin with a blank. -/
theorem tokens?_column_words {text : String} {ts : List Token}
    (htext : tokens? (plain text) = some ts) (hblank : text.toList.head?.any Sql.isLoose) :
    tokens? (plain (column ++ text)) = some (.word column :: ts) := by
  rw [Sql.plain_append]
  apply Sql.tokens?_append (Sql.tokens?_word hcolumn) htext
  have hright := Sql.Apart.plain_right hblank (plain column) []
  rwa [List.append_nil] at hright

theorem tokens?_column_value {text : String} {word : Token} {value : Token} {ps : List Piece}
    (hdelimiter : Sql.isDelimiter text) (htext : tokens? (plain text) = some [word])
    (hvalue : tokens? ps = some [value]) :
    tokens? (plain (column ++ text) ++ ps) = some [.word column, word, value] := by
  rw [Sql.plain_append, List.append_assoc]
  exact Sql.tokens?_around hdelimiter (Sql.tokens?_word hcolumn) htext hvalue

theorem tokens?_equality (value : Literal) :
    tokens? (equalityPieces column value) = some (equalityAtom column value).tokens := by
  unfold equalityPieces equalityAtom
  by_cases hnull : value.isNull = true
  · rw [if_pos hnull, if_pos hnull]
    exact tokens?_column_words hcolumn rfl (by decide)
  · rw [if_neg hnull, if_neg hnull]
    exact tokens?_compared hcolumn rfl (by decide) value

theorem tokens?_like (pattern : Literal) :
    tokens? (likePieces column pattern) = some (likeAtom column pattern).tokens :=
  tokens?_column_value hcolumn (by decide) rfl pattern.tokens?_decodedPieces

theorem tokens?_wildcard (before : String) (value : Literal) (after : String) :
    tokens? (wildcardPieces column before value after) =
      some (wildcardAtom column before value after).tokens :=
  tokens?_column_value hcolumn (by decide) rfl (Sql.tokens?_literal _)

theorem Comparator.tokens?_pieces (comparator : Comparator) (value : Literal) :
    tokens? (comparator.pieces column value) = some (comparator.atom column value).tokens := by
  cases comparator with
  | lessThan | lessThanOrEqual | greaterThan | greaterThanOrEqual =>
      exact tokens?_compared hcolumn rfl (by decide) value
  | not =>
      unfold pieces atom
      by_cases hnull : value.isNull = true
      · rw [if_pos hnull, if_pos hnull]
        exact tokens?_column_words hcolumn rfl (by decide)
      · rw [if_neg hnull, if_neg hnull]
        exact tokens?_compared hcolumn rfl (by decide) value
  | like | contains | startsWith | endsWith => exact tokens?_wildcard hcolumn _ value _

theorem Condition.tokens?_pieces (condition : Condition) :
    tokens? (condition.pieces column) = some (condition.tokens column) := by
  cases condition with
  | equals value => exact tokens?_equality hcolumn value
  | isIn values =>
      have hvalues : tokens? ((plain ", ").intercalate (values.map Literal.pieces)) =
          some ([Token.comma].intercalate (values.map fun value => [value.value.token])) :=
        Sql.tokens?_intercalate (by decide) rfl fun value _ => value.tokens?_pieces
      have hclosed := Sql.tokens?_after (by decide : ")".toList.head?.any Sql.isLoose) hvalues rfl
      rw [pieces, tokens, inList, Sql.plain_append, List.map_map, List.append_assoc,
        List.append_assoc]
      have hin : tokens? (plain " IN (") = some [.word "IN", .opening] := rfl
      have hlist := Sql.tokens?_around (by decide) (Sql.tokens?_word hcolumn) hin hclosed
      exact hlist
  | compare comparisons =>
      exact Sql.tokens?_intercalate (by decide) rfl fun entry _ =>
        entry.1.tokens?_pieces hcolumn entry.2

end

/-! Clauses. -/

theorem Predicate.tokens?_of_clauses {predicate : Predicate}
    (h : ∀ clause ∈ predicate, tokens? clause.pieces = some clause.tokens) :
    tokens? predicate.pieces = some predicate.tokens :=
  Sql.tokens?_intercalate (by decide) rfl h

theorem tokens?_bracketed {ps : List Piece} {ts : List Token} (h : tokens? ps = some ts) :
    tokens? (plain "( " ++ ps ++ plain " )") = some (bracketedTokens ts) := by
  have hclosed := Sql.tokens?_after (by decide : " )".toList.head?.any Sql.isLoose) h rfl
  rw [List.append_assoc]
  exact Sql.tokens?_before (by decide : "( ".toList.getLast?.any Sql.isLoose) rfl hclosed

/-- Branches in brackets, with a delimiter between them that is one token. -/
theorem tokens?_branches {operator : String} {mark : Token} {branches : List Predicate}
    (hdelimiter : Sql.isDelimiter operator) (hmark : tokens? (plain operator) = some [mark])
    (h : ∀ branch ∈ branches, ∀ clause ∈ branch, tokens? clause.pieces = some clause.tokens) :
    tokens? (plain "( " ++ (plain operator).intercalate (branches.map Predicate.pieces) ++
      plain " )") =
      some (bracketedTokens ([mark].intercalate (branches.map Predicate.tokens))) := by
  apply tokens?_bracketed
  exact Sql.tokens?_intercalate hdelimiter hmark fun branch hbranch =>
    Predicate.tokens?_of_clauses (h branch hbranch)

theorem Clause.tokens?_pieces {clause : Clause}
    (hcolumns : ∀ column ∈ clause.columns, Sql.isWord column.toList) :
    tokens? clause.pieces = some clause.tokens := by
  refine Clause.induct_columns (motive := fun clause => tokens? clause.pieces = some clause.tokens)
    ?_ ?_ ?_ ?_ clause hcolumns
  · intro branches ih
    rw [pieces_any, tokens, fold_any]
    exact tokens?_branches (by decide) rfl ih
  · intro branches ih
    rw [pieces_all, tokens, fold_all]
    exact tokens?_branches (by decide) rfl ih
  · intro patterns hpatterns
    rw [pieces_like, tokens, fold_like]
    exact Sql.tokens?_intercalate (by decide) rfl fun entry hentry =>
      tokens?_like (hpatterns entry hentry) entry.2
  · intro name condition hname
    rw [pieces_column, tokens, fold_column]
    exact condition.tokens?_pieces hname

theorem Predicate.tokens?_pieces {predicate : Predicate}
    (hcolumns : ∀ column ∈ predicate.columns, Sql.isWord column.toList) :
    tokens? predicate.pieces = some predicate.tokens := by
  apply Predicate.tokens?_of_clauses
  intro clause hclause
  exact Clause.tokens?_pieces (Predicate.forall_mem_columns.1 hcolumns clause hclause)

end CriteriaSql
