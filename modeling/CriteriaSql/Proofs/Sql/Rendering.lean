import CriteriaSql.Proofs.Criteria.Fold
import CriteriaSql.Proofs.Result
import CriteriaSql.Proofs.Sql.Numeral
import CriteriaSql.Proofs.Sql.Piece
import CriteriaSql.Statement.Where

/-!
The pieces of which conditions are written. A predicate is rendered unless a regular expression
stands in one of its like maps, and then its text is that of its pieces.
-/

namespace CriteriaSql

open Sql (Piece plain written isNumeral)
open Text (separated)

/-! Literals. -/

def blanked (c : Char) : Char :=
  if c = '"' then ' ' else c

/-- Where no space is, no double quote has been. -/
theorem eq_of_map_blanked {cs ds : List Char} (h : cs.map blanked = ds) (hspace : ' ' ∉ ds) :
    cs = ds := by
  have hkept : ∀ c ∈ cs, blanked c = id c := by
    intro c hc
    refine if_neg fun hdouble => hspace ?_
    rw [← h, List.mem_map]
    exact ⟨c, hc, if_pos hdouble⟩
  rw [← h, List.map_congr_left hkept, List.map_id]

theorem encodeChar_eq (c : Char) : Quoted.encodeChar c = Piece.doubled (blanked c) := by
  unfold Quoted.encodeChar Piece.doubled blanked
  by_cases hquote : c = '\''
  · subst hquote; decide
  · rw [if_neg hquote]
    by_cases hdouble : c = '"'
    · subst hdouble; decide
    · rw [if_neg hdouble, if_neg hdouble, if_neg hquote]

theorem flatMap_encodeChar (cs : List Char) :
    cs.flatMap Quoted.encodeChar = (cs.map blanked).flatMap Piece.doubled := by
  rw [List.flatMap_map]
  congr 1
  funext c
  exact encodeChar_eq c

theorem toList_quote (s : String) :
    (quote s).toList = Piece.chars (.literal (s.toList.map blanked)) := by
  rw [quote, String.toList_ofList, Quoted.encode, flatMap_encodeChar, Piece.chars]

theorem flatMap_doubled {cs : List Char} (h : '\'' ∉ cs) : cs.flatMap Piece.doubled = cs := by
  induction cs with
  | nil => rfl
  | cons c rest ih =>
      rw [List.mem_cons, not_or] at h
      rw [List.flatMap_cons, ih h.2, Piece.doubled, if_neg (Ne.symm h.1), List.singleton_append]

namespace Literal

/-- The text of a value that is written between quotes. -/
def raw? : Literal → Option String
  | text s => some s
  | dateTime instant => some instant.sqlText
  | regex pattern => some ("/" ++ pattern ++ "/")
  | json value => some value.compact
  | _ => none

/-- What is between the quotes of a value: its text, with a space for every double quote. -/
def content? (value : Literal) : Option (List Char) :=
  value.raw?.map fun s => s.toList.map blanked

/-- The content, or the bare text of a value that has no quotes. -/
def pattern (value : Literal) : List Char :=
  value.content?.getD value.sql.toList

def pieces (value : Literal) : List Piece :=
  match value.content? with
  | some content => [.literal content]
  | none => plain value.sql

/-- The pieces of a pattern with percent signs decoded. -/
def decodedPieces (value : Literal) : List Piece :=
  match value.content? with
  | some content => [.literal (decodePercent content)]
  | none => plain value.sql

def isRegex : Literal → Bool
  | regex _ => true
  | _ => false

theorem sql_of_content? {value : Literal} {content : List Char}
    (h : value.content? = some content) :
    value.sql.toList = Piece.chars (.literal content) := by
  cases value with
  | text s => obtain rfl := Option.some.inj h; exact toList_quote s
  | dateTime instant => obtain rfl := Option.some.inj h; exact toList_quote instant.sqlText
  | regex pattern => obtain rfl := Option.some.inj h; exact toList_quote ("/" ++ pattern ++ "/")
  | json value => obtain rfl := Option.some.inj h; exact toList_quote value.compact
  | null | bool _ | int _ | float _ => exact absurd h (by simp [content?, raw?])

/-- Without quotes there are only numerals and the word for null. -/
theorem bare_of_content? {value : Literal} (h : value.content? = none) :
    value.sql = "NULL" ∨ isNumeral value.sql.toList := by
  cases value with
  | null => exact .inl rfl
  | bool b => cases b <;> exact .inr (by decide)
  | int n => exact .inr (Sql.isNumeral_intToString n)
  | float x =>
      by_cases hx : x.isFinite
      · rw [sql, if_pos hx]
        exact .inr (Sql.isNumeral_float hx)
      · rw [sql, if_neg hx]
        exact .inl rfl
  | text _ | dateTime _ | regex _ | json _ => exact absurd h (by simp [content?, raw?])

theorem not_mem_bare {value : Literal} (h : value.content? = none) :
    '\'' ∉ value.sql.toList ∧ '%' ∉ value.sql.toList := by
  rcases bare_of_content? h with hnull | hnumeral
  · rw [hnull]
    decide
  · refine ⟨Sql.quote_not_mem_of_isNumeral hnumeral, fun hmem => ?_⟩
    rcases Sql.mem_isNumeral hnumeral hmem with hd | hd | hd <;> revert hd <;> decide

theorem toList_prepared (value : Literal) : value.prepared.toList = written value.pieces := by
  rw [prepared_eq_sql, pieces]
  cases h : value.content? with
  | none => rw [Sql.written_plain]
  | some content => rw [sql_of_content? h, Sql.written_singleton]

/-- Taking the quotes off and putting quotes around again writes the pattern as a content. -/
theorem strip_prepared (value : Literal) :
    Quoted.strip value.prepared.toList = value.pattern.flatMap Piece.doubled := by
  rw [prepared_eq_sql, pattern]
  cases h : value.content? with
  | none =>
      -- Without quotes there is nothing to take off.
      have hquote := (not_mem_bare h).1
      rw [Option.getD_none, flatMap_doubled hquote]
      cases hchars : value.sql.toList with
      | nil => rfl
      | cons c rest =>
          have hc : c ≠ '\'' := fun heq => hquote (by rw [hchars, heq]; exact List.mem_cons_self)
          rw [Quoted.strip, if_neg fun hstrip => hc hstrip.1]
  | some content =>
      rw [sql_of_content? h, Option.getD_some, Piece.chars]
      simp [Quoted.strip]

end Literal

/-! Percent signs. -/

theorem decodePercent_of_not_mem {cs : List Char} (h : '%' ∉ cs) : decodePercent cs = cs := by
  induction cs with
  | nil => rfl
  | cons c rest ih =>
      rw [List.mem_cons, not_or] at h
      rw [decodePercent, ih h.2]
      intro others hc _
      exact h.1 hc.symm

theorem decodePercent_cons {c : Char} (hc : c ≠ '%') (rest : List Char) :
    decodePercent (c :: rest) = c :: decodePercent rest := by
  rw [decodePercent]
  intro others h _
  exact hc h

theorem eq_cons_of_doubled {cs ds : List Char}
    (h : cs.flatMap Piece.doubled ++ ['\''] = '%' :: ds) :
    ∃ rest, cs = '%' :: rest ∧ rest.flatMap Piece.doubled ++ ['\''] = ds := by
  cases cs with
  | nil => exact absurd (List.cons.inj h).1 (by decide)
  | cons c rest =>
      rw [List.flatMap_cons] at h
      by_cases hquote : c = '\''
      · subst hquote
        exact absurd (List.cons.inj h).1 (by decide)
      · rw [Piece.doubled, if_neg hquote] at h
        obtain ⟨rfl, hrest⟩ := List.cons.inj h
        exact ⟨rest, rfl, hrest⟩

/-- A doubled quote never comes between percent signs, so decoding may as well come first. -/
theorem decodePercent_doubled (cs : List Char) :
    decodePercent (cs.flatMap Piece.doubled ++ ['\'']) =
      (decodePercent cs).flatMap Piece.doubled ++ ['\''] := by
  induction cs using decodePercent.induct with
  | case1 rest ih =>
      show '\\' :: '%' :: decodePercent (rest.flatMap Piece.doubled ++ ['\'']) = _
      rw [ih, decodePercent]
      rfl
  | case2 c rest hrest ih =>
      rw [List.flatMap_cons]
      by_cases hquote : c = '\''
      · subst hquote
        rw [decodePercent_cons (by decide), List.flatMap_cons, List.append_assoc, List.append_assoc,
          ← ih]
        show decodePercent ('\'' :: '\'' :: (rest.flatMap Piece.doubled ++ ['\''])) = _
        rw [decodePercent_cons (by decide), decodePercent_cons (by decide)]
        rfl
      · have hdoubled : Piece.doubled c = [c] := if_neg hquote
        have hkept : decodePercent (c :: rest) = c :: decodePercent rest := by
          rw [decodePercent]
          exact hrest
        -- Two percent signs after this one would come from two that are written after `c`.
        have hkept' : decodePercent (c :: (rest.flatMap Piece.doubled ++ ['\''])) =
            c :: decodePercent (rest.flatMap Piece.doubled ++ ['\'']) := by
          rw [decodePercent]
          intro others hc hothers
          obtain ⟨more, hmore, hnext⟩ := eq_cons_of_doubled hothers
          obtain ⟨last, hlast, _⟩ := eq_cons_of_doubled hnext
          exact hrest last hc (by rw [hmore, hlast])
        rw [hdoubled, hkept, List.flatMap_cons, hdoubled, List.append_assoc, List.append_assoc,
          List.singleton_append, List.singleton_append, hkept', ih]
  | case3 => rfl

namespace Literal

theorem toList_decoded (value : Literal) :
    decodePercent value.prepared.toList = written value.decodedPieces := by
  rw [prepared_eq_sql, decodedPieces]
  cases h : value.content? with
  | none => rw [decodePercent_of_not_mem (not_mem_bare h).2, Sql.written_plain]
  | some content =>
      rw [sql_of_content? h, Sql.written_singleton, Piece.chars, Piece.chars, List.cons_append,
        decodePercent_cons (by decide), decodePercent_doubled]
      rfl

end Literal

/-! Conditions on a column. -/

/-- An operator between a column and a value. -/
def comparedPieces (column operator : String) (value : Literal) : List Piece :=
  plain (column ++ operator) ++ value.pieces

def equalityPieces (column : String) (value : Literal) : List Piece :=
  if value.isNull then plain (column ++ " IS NULL") else comparedPieces column "=" value

def likePieces (column : String) (pattern : Literal) : List Piece :=
  plain (column ++ " LIKE ") ++ pattern.decodedPieces

def wildcardPieces (column before : String) (value : Literal) (after : String) : List Piece :=
  plain (column ++ " LIKE ") ++ [.literal (before.toList ++ value.pattern ++ after.toList)]

def Comparator.pieces (comparator : Comparator) (column : String) (value : Literal) : List Piece :=
  match comparator with
  | lessThan => comparedPieces column "<" value
  | lessThanOrEqual => comparedPieces column "<=" value
  | greaterThan => comparedPieces column ">" value
  | greaterThanOrEqual => comparedPieces column ">=" value
  | not =>
      if value.isNull then plain (column ++ " IS NOT NULL") else comparedPieces column "<>" value
  | like => wildcardPieces column "" value ""
  | contains => wildcardPieces column "%" value "%"
  | startsWith => wildcardPieces column "" value "%"
  | endsWith => wildcardPieces column "%" value ""

def Condition.pieces (column : String) : Condition → List Piece
  | equals value => equalityPieces column value
  | isIn values =>
      plain (column ++ " IN (") ++ (plain ", ").intercalate (values.map Literal.pieces) ++ plain ")"
  | compare comparisons =>
      (plain " AND ").intercalate (comparisons.map fun entry => entry.1.pieces column entry.2)

theorem toList_compared (column operator : String) (value : Literal) :
    (column ++ operator ++ value.prepared).toList =
      written (comparedPieces column operator value) := by
  rw [comparedPieces, Sql.written_append, Sql.written_plain, String.toList_append,
    Literal.toList_prepared]

theorem toList_equality (column : String) (value : Literal) :
    (equality column value).toList = written (equalityPieces column value) := by
  by_cases hnull : value.isNull = true
  · rw [equality, equalityPieces, if_pos hnull, if_pos hnull, Sql.written_plain]
  · rw [equality, equalityPieces, if_neg hnull, if_neg hnull, toList_compared]

theorem toList_wildcard (column before : String) (value : Literal) (after : String)
    (hbefore : '\'' ∉ before.toList) (hafter : '\'' ∉ after.toList) :
    (wildcardSql column before value after).toList =
      written (wildcardPieces column before value after) := by
  unfold wildcardSql wildcardPieces
  rw [Sql.written_append, Sql.written_plain, Sql.written_singleton, Piece.chars]
  simp only [String.toList_append, String.toList_ofList, Literal.strip_prepared,
    List.flatMap_append, flatMap_doubled hbefore, flatMap_doubled hafter]
  simp

theorem Comparator.toList_sql (comparator : Comparator) (column : String) (value : Literal) :
    (comparator.sql column value).toList = written (comparator.pieces column value) := by
  cases comparator with
  | lessThan => exact toList_compared column "<" value
  | lessThanOrEqual => exact toList_compared column "<=" value
  | greaterThan => exact toList_compared column ">" value
  | greaterThanOrEqual => exact toList_compared column ">=" value
  | not =>
      by_cases hnull : value.isNull = true
      · rw [sql, pieces, if_pos hnull, if_pos hnull, Sql.written_plain]
      · rw [sql, pieces, if_neg hnull, if_neg hnull, toList_compared]
  | like => exact toList_wildcard column "" value "" (by decide) (by decide)
  | contains => exact toList_wildcard column "%" value "%" (by decide) (by decide)
  | startsWith => exact toList_wildcard column "" value "%" (by decide) (by decide)
  | endsWith => exact toList_wildcard column "%" value "" (by decide) (by decide)

/-- Rendered parts and a separator are written as the pieces of the parts, intercalated. -/
theorem toList_separated_map {items : List α} {render : α → String} {pieces : α → List Piece}
    (separator : String) (h : ∀ item ∈ items, (render item).toList = written (pieces item)) :
    (separated separator (items.map render)).toList =
      written ((plain separator).intercalate (items.map pieces)) := by
  rw [Text.toList_separated, Sql.written_intercalate, Sql.written_plain, List.map_map, List.map_map]
  congr 1
  exact List.map_congr_left h

theorem Condition.toList_sql (column : String) (condition : Condition) :
    (condition.sql column).toList = written (condition.pieces column) := by
  cases condition with
  | equals value => exact toList_equality column value
  | isIn values =>
      unfold sql pieces
      simp only [String.toList_append, Sql.written_append, Sql.written_plain,
        toList_separated_map ", " fun value _ => Literal.toList_prepared value]
  | compare comparisons =>
      exact toList_separated_map " AND " fun entry _ => entry.1.toList_sql column entry.2

/-! Clauses and predicates. -/

def piecesAlgebra : Clause.Algebra (List Piece) (List Piece) where
  clauses parts := (plain " AND ").intercalate parts
  any branches := plain "( " ++ (plain " OR ").intercalate branches ++ plain " )"
  all branches := plain "( " ++ (plain " AND ").intercalate branches ++ plain " )"
  like patterns :=
    (plain " AND ").intercalate (patterns.map fun entry => likePieces entry.1 entry.2)
  column name condition := condition.pieces name

def regexAlgebra : Clause.Algebra Bool Bool where
  clauses found := found.any id
  any found := found.any id
  all found := found.any id
  like patterns := patterns.any fun entry => entry.2.isRegex
  column _ _ := false

def Clause.pieces (clause : Clause) : List Piece :=
  clause.fold piecesAlgebra

def Predicate.pieces (predicate : Predicate) : List Piece :=
  predicate.fold piecesAlgebra

/-- A regular expression stands in a like map, in the clause or below it. -/
def Clause.hasRegex (clause : Clause) : Bool :=
  clause.fold regexAlgebra

def Predicate.hasRegex (predicate : Predicate) : Bool :=
  predicate.fold regexAlgebra

theorem Clause.pieces_any (branches : List Predicate) :
    (Clause.any branches).pieces =
      plain "( " ++ (plain " OR ").intercalate (branches.map Predicate.pieces) ++ plain " )" :=
  Clause.fold_any piecesAlgebra branches

theorem Clause.pieces_all (branches : List Predicate) :
    (Clause.all branches).pieces =
      plain "( " ++ (plain " AND ").intercalate (branches.map Predicate.pieces) ++ plain " )" :=
  Clause.fold_all piecesAlgebra branches

theorem Clause.pieces_like (patterns : List (String × Literal)) :
    (Clause.like patterns).pieces =
      (plain " AND ").intercalate (patterns.map fun entry => likePieces entry.1 entry.2) :=
  Clause.fold_like piecesAlgebra patterns

theorem Clause.pieces_column (name : String) (condition : Condition) :
    (Clause.column name condition).pieces = condition.pieces name :=
  Clause.fold_column piecesAlgebra name condition

theorem Predicate.hasRegex_eq (predicate : Predicate) :
    predicate.hasRegex = List.any predicate Clause.hasRegex :=
  List.any_map

theorem Clause.hasRegex_any (branches : List Predicate) :
    (Clause.any branches).hasRegex = branches.any Predicate.hasRegex :=
  (Clause.fold_any regexAlgebra branches).trans List.any_map

theorem Clause.hasRegex_all (branches : List Predicate) :
    (Clause.all branches).hasRegex = branches.any Predicate.hasRegex :=
  (Clause.fold_all regexAlgebra branches).trans List.any_map

theorem Clause.hasRegex_like (patterns : List (String × Literal)) :
    (Clause.like patterns).hasRegex = patterns.any fun entry => entry.2.isRegex :=
  Clause.fold_like regexAlgebra patterns

theorem Clause.hasRegex_column (name : String) (condition : Condition) :
    (Clause.column name condition).hasRegex = false :=
  Clause.fold_column regexAlgebra name condition

theorem clauseSqls_eq_mapM (clauses : List Clause) :
    clauseSqls clauses = clauses.mapM Clause.sql := by
  induction clauses with
  | nil => rfl
  | cons clause rest ih => rw [clauseSqls, ih, List.mapM_cons]

theorem branchSqls_eq_mapM (branches : List Predicate) :
    branchSqls branches = branches.mapM Predicate.sql := by
  induction branches with
  | nil => rfl
  | cons branch rest ih =>
      rw [branchSqls, ih, List.mapM_cons, Predicate.sql]
      cases clauseSqls branch <;> rfl

theorem likeSql_eq (column : String) (pattern : Literal) :
    likeSql column pattern =
      if pattern.isRegex then .error .regexInLike
      else .ok (String.ofList (written (likePieces column pattern))) := by
  have hpattern : column ++ " LIKE " ++ String.ofList (decodePercent pattern.prepared.toList) =
      String.ofList (written (likePieces column pattern)) := by
    rw [Literal.toList_decoded, ← String.toList_inj]
    simp [likePieces]
  -- Only a regular expression is told apart; all other patterns are written alike.
  cases pattern with
  | regex pattern => rfl
  | null | bool _ | int _ | float _ | text _ | dateTime _ | json _ =>
      exact congrArg Except.ok hpattern

theorem Predicate.sql_eq_of_clauses {predicate : Predicate}
    (h : ∀ clause ∈ predicate, clause.sql =
      if clause.hasRegex then .error .regexInLike
      else .ok (String.ofList (written clause.pieces))) :
    Predicate.sql predicate =
      if predicate.hasRegex then .error .regexInLike
      else .ok (String.ofList (written predicate.pieces)) := by
  have htext : separated " AND "
      (predicate.map fun clause => String.ofList (written clause.pieces)) =
      String.ofList (written predicate.pieces) := by
    rw [← String.toList_inj, String.toList_ofList]
    exact toList_separated_map " AND " fun clause _ => String.toList_ofList
  rw [Predicate.sql, clauseSqls_eq_mapM, mapM_eq_ite h, ite_error_bind, hasRegex_eq, htext]
  rfl

/-- Branches in brackets, with `operator` between them. -/
theorem bracketed_eq {branches : List Predicate} (operator : String)
    (h : ∀ branch ∈ branches, ∀ clause ∈ branch, clause.sql =
      if clause.hasRegex then .error .regexInLike
      else .ok (String.ofList (written clause.pieces))) :
    (do return "( " ++ separated operator (← branchSqls branches) ++ " )") =
      if branches.any Predicate.hasRegex then .error .regexInLike
      else .ok (String.ofList (written (plain "( " ++
        (plain operator).intercalate (branches.map Predicate.pieces) ++ plain " )"))) := by
  have hbranches : (separated operator
      (branches.map fun branch => String.ofList (written branch.pieces))).toList =
      written ((plain operator).intercalate (branches.map Predicate.pieces)) :=
    toList_separated_map operator fun branch _ => String.toList_ofList
  have htext : "( " ++ separated operator
      (branches.map fun branch => String.ofList (written branch.pieces)) ++ " )" =
      String.ofList (written (plain "( " ++
        (plain operator).intercalate (branches.map Predicate.pieces) ++ plain " )")) := by
    rw [← String.toList_inj]
    simp only [String.toList_append, String.toList_ofList, Sql.written_append, Sql.written_plain,
      hbranches]
  rw [branchSqls_eq_mapM, mapM_eq_ite fun branch hbranch =>
    Predicate.sql_eq_of_clauses (h branch hbranch), ite_error_bind, htext]
  rfl

/-- The text of a clause is that of its pieces, and a regular expression in a like map is all that
can be wrong with it. -/
theorem Clause.sql_eq (clause : Clause) :
    clause.sql =
      if clause.hasRegex then .error .regexInLike
      else .ok (String.ofList (written clause.pieces)) := by
  induction clause using Clause.induct with
  | any branches ih => rw [sql, hasRegex_any, pieces_any, bracketed_eq " OR " ih]
  | all branches ih => rw [sql, hasRegex_all, pieces_all, bracketed_eq " AND " ih]
  | like patterns =>
      have htext : separated " AND " (patterns.map fun entry =>
          String.ofList (written (likePieces entry.1 entry.2))) =
          String.ofList (written ((plain " AND ").intercalate
            (patterns.map fun entry => likePieces entry.1 entry.2))) := by
        rw [← String.toList_inj, String.toList_ofList]
        exact toList_separated_map " AND " fun entry _ => String.toList_ofList
      rw [sql, hasRegex_like, pieces_like,
        mapM_eq_ite fun entry _ => likeSql_eq entry.1 entry.2, ite_error_bind, htext]
      rfl
  | column name condition =>
      rw [sql, hasRegex_column, pieces_column, if_neg (by decide)]
      refine congrArg Except.ok ?_
      rw [← String.toList_inj, String.toList_ofList, condition.toList_sql]

theorem Predicate.sql_eq (predicate : Predicate) :
    predicate.sql =
      if predicate.hasRegex then .error .regexInLike
      else .ok (String.ofList (written predicate.pieces)) :=
  Predicate.sql_eq_of_clauses fun clause _ => clause.sql_eq

theorem Predicate.sql_eq_ok_iff {predicate : Predicate} {text : String} :
    predicate.sql = .ok text ↔
      predicate.hasRegex = false ∧ text = String.ofList (written predicate.pieces) := by
  rw [sql_eq]
  cases predicate.hasRegex with
  | true => simp
  | false => simp [eq_comm]

end CriteriaSql
