import CriteriaSql.Proofs.Criteria.Shape
import CriteriaSql.Proofs.Sql.SelectRendering

/-!
Values stay inside of literals: the literals of a statement are the texts of the values, and the
statement around them is that of any other values of the same shape.
-/

namespace CriteriaSql

open Sql (Piece Fragment pieces? plain written contents skeleton)

/-! The literals that are asked for, in the order of the clauses. -/

def Comparator.contents (comparator : Comparator) (value : Literal) : List (List Char) :=
  match comparator with
  | like => [value.pattern]
  | contains => ['%' :: value.pattern ++ ['%']]
  | startsWith => [value.pattern ++ ['%']]
  | endsWith => ['%' :: value.pattern]
  | lessThan | lessThanOrEqual | greaterThan | greaterThanOrEqual | not => value.content?.toList

def Condition.contents : Condition → List (List Char)
  | equals value => value.content?.toList
  | isIn values => values.flatMap fun value => value.content?.toList
  | compare comparisons => comparisons.flatMap fun entry => entry.1.contents entry.2

def contentsAlgebra : Clause.Algebra (List (List Char)) (List (List Char)) where
  clauses parts := parts.flatten
  any branches := branches.flatten
  all branches := branches.flatten
  like patterns := patterns.flatMap fun entry => (entry.2.content?.map decodePercent).toList
  column _ condition := condition.contents

def Predicate.contents (predicate : Predicate) : List (List Char) :=
  predicate.fold contentsAlgebra

/-! These are the contents of the pieces. -/

theorem Literal.contents_pieces (value : Literal) :
    contents value.pieces = value.content?.toList := by
  unfold pieces
  cases value.content? with
  | none => exact Sql.contents_plain _
  | some content => rfl

theorem Literal.contents_decodedPieces (value : Literal) :
    contents value.decodedPieces = (value.content?.map decodePercent).toList := by
  unfold decodedPieces
  cases value.content? with
  | none => exact Sql.contents_plain _
  | some content => rfl

theorem contents_compared (column operator : String) (value : Literal) :
    contents (comparedPieces column operator value) = value.content?.toList := by
  rw [comparedPieces, Sql.contents_append, Sql.contents_plain, List.nil_append,
    value.contents_pieces]

/-- A null is no text, whether it is written as a value or into the operator. -/
theorem contents_null {value : Literal} (h : value.isNull = true) (text : String) :
    contents (plain text) = value.content?.toList := by
  cases value with
  | null => exact Sql.contents_plain text
  | bool _ | int _ | float _ | text _ | dateTime _ | regex _ | json _ =>
      exact absurd h Bool.false_ne_true

theorem contents_wildcard (column before : String) (value : Literal) (after : String) :
    contents (wildcardPieces column before value after) =
      [before.toList ++ value.pattern ++ after.toList] := by
  rw [wildcardPieces, Sql.contents_append, Sql.contents_plain, List.nil_append,
    Sql.contents_literal]

theorem Comparator.contents_pieces (comparator : Comparator) (column : String) (value : Literal) :
    Sql.contents (comparator.pieces column value) = comparator.contents value := by
  cases comparator with
  | lessThan => exact contents_compared column "<" value
  | lessThanOrEqual => exact contents_compared column "<=" value
  | greaterThan => exact contents_compared column ">" value
  | greaterThanOrEqual => exact contents_compared column ">=" value
  | not =>
      by_cases hnull : value.isNull = true
      · rw [pieces, if_pos hnull]
        exact contents_null hnull _
      · rw [pieces, if_neg hnull]
        exact contents_compared column "<>" value
  | like =>
      rw [pieces, contents_wildcard]
      simp [contents]
  | contains => exact contents_wildcard column "%" value "%"
  | startsWith => exact contents_wildcard column "" value "%"
  | endsWith =>
      rw [pieces, contents_wildcard]
      simp [contents]

theorem Condition.contents_pieces (column : String) (condition : Condition) :
    Sql.contents (condition.pieces column) = condition.contents := by
  cases condition with
  | equals value =>
      by_cases hnull : value.isNull = true
      · rw [pieces, equalityPieces, if_pos hnull]
        exact contents_null hnull _
      · rw [pieces, equalityPieces, if_neg hnull]
        exact contents_compared column "=" value
  | isIn values =>
      rw [pieces, Sql.contents_append, Sql.contents_append, Sql.contents_plain, Sql.contents_plain,
        Sql.contents_intercalate_plain, List.map_map, List.nil_append, List.append_nil, contents,
        List.flatMap_def]
      congr 1
      exact List.map_congr_left fun value _ => value.contents_pieces
  | compare comparisons =>
      rw [pieces, Sql.contents_intercalate_plain, List.map_map, contents, List.flatMap_def]
      congr 1
      exact List.map_congr_left fun entry _ => entry.1.contents_pieces column entry.2

theorem Predicate.contents_pieces (predicate : Predicate) :
    Sql.contents predicate.pieces = predicate.contents := by
  have hbracketed : ∀ (operator : String) (branches : List (List Piece)),
      Sql.contents (plain "( " ++ (plain operator).intercalate branches ++ plain " )") =
        (branches.map Sql.contents).flatten := by
    intro operator branches
    rw [Sql.contents_append, Sql.contents_append, Sql.contents_plain, Sql.contents_plain,
      Sql.contents_intercalate_plain, List.nil_append, List.append_nil]
  apply Predicate.fold_hom
  constructor
  · exact Sql.contents_intercalate_plain " AND "
  · exact hbracketed " OR "
  · exact hbracketed " AND "
  · intro patterns
    show Sql.contents ((plain " AND ").intercalate _) = patterns.flatMap _
    rw [Sql.contents_intercalate_plain, List.map_map, List.flatMap_def]
    congr 1
    refine List.map_congr_left fun entry _ => ?_
    show Sql.contents (plain _ ++ entry.2.decodedPieces) = _
    rw [Sql.contents_append, Sql.contents_plain, List.nil_append, entry.2.contents_decodedPieces]
  · exact fun name condition => condition.contents_pieces name

/-! Values of one shape are surrounded by the same text. -/

theorem Literal.skeleton_shape (value : Literal) :
    skeleton value.shape.pieces = skeleton value.pieces := by
  cases value with
  | null | bool _ | int _ | float _ => rw [shape] <;> simp
  | text _ | dateTime _ | regex _ | json _ =>
      show skeleton [.literal _] = skeleton [.literal _]
      rw [Sql.skeleton_literal, Sql.skeleton_literal]

theorem Literal.skeleton_decoded_shape (value : Literal) :
    skeleton value.shape.decodedPieces = skeleton value.decodedPieces := by
  cases value with
  | null | bool _ | int _ | float _ => rw [shape] <;> simp
  | text _ | dateTime _ | regex _ | json _ =>
      show skeleton [.literal _] = skeleton [.literal _]
      rw [Sql.skeleton_literal, Sql.skeleton_literal]

theorem Literal.isNull_shape (value : Literal) : value.shape.isNull = value.isNull := by
  cases value <;> rfl

theorem Literal.isRegex_shape (value : Literal) : value.shape.isRegex = value.isRegex := by
  cases value <;> rfl

theorem skeleton_compared_shape (column operator : String) (value : Literal) :
    skeleton (comparedPieces column operator value.shape) =
      skeleton (comparedPieces column operator value) := by
  rw [comparedPieces, comparedPieces, Sql.skeleton_append, Sql.skeleton_append,
    value.skeleton_shape]

theorem skeleton_wildcard (column before : String) (value : Literal) (after : String) :
    skeleton (wildcardPieces column before value after) =
      skeleton (plain (column ++ " LIKE ")) ++ [none] := by
  rw [wildcardPieces, Sql.skeleton_append, Sql.skeleton_literal]

theorem Comparator.skeleton_shape (comparator : Comparator) (column : String) (value : Literal) :
    skeleton (comparator.pieces column value.shape) =
      skeleton (comparator.pieces column value) := by
  cases comparator with
  | lessThan => exact skeleton_compared_shape column "<" value
  | lessThanOrEqual => exact skeleton_compared_shape column "<=" value
  | greaterThan => exact skeleton_compared_shape column ">" value
  | greaterThanOrEqual => exact skeleton_compared_shape column ">=" value
  | not =>
      rw [pieces, pieces, value.isNull_shape]
      by_cases hnull : value.isNull = true
      · rw [if_pos hnull, if_pos hnull]
      · rw [if_neg hnull, if_neg hnull, skeleton_compared_shape]
  | like | contains | startsWith | endsWith =>
      rw [pieces, pieces, skeleton_wildcard, skeleton_wildcard]

/-- Parts with the same skeletons give the same skeleton when they are intercalated. -/
theorem skeleton_intercalate_map {f : α → α} {pieces : α → List Piece} (separator : List Piece)
    (items : List α) (h : ∀ item, skeleton (pieces (f item)) = skeleton (pieces item)) :
    skeleton (separator.intercalate ((items.map f).map pieces)) =
      skeleton (separator.intercalate (items.map pieces)) := by
  rw [Sql.skeleton_intercalate, Sql.skeleton_intercalate, List.map_map, List.map_map, List.map_map]
  congr 1
  exact List.map_congr_left fun item _ => h item

theorem Condition.skeleton_shape (column : String) (condition : Condition) :
    skeleton (condition.shape.pieces column) = skeleton (condition.pieces column) := by
  cases condition with
  | equals value =>
      rw [shape, pieces, pieces, equalityPieces, equalityPieces, value.isNull_shape]
      by_cases hnull : value.isNull = true
      · rw [if_pos hnull, if_pos hnull]
      · rw [if_neg hnull, if_neg hnull, skeleton_compared_shape]
  | isIn values =>
      have hvalues :
          skeleton ((plain ", ").intercalate ((values.map Literal.shape).map Literal.pieces)) =
            skeleton ((plain ", ").intercalate (values.map Literal.pieces)) :=
        skeleton_intercalate_map _ values Literal.skeleton_shape
      rw [shape, pieces, pieces, Sql.skeleton_append, Sql.skeleton_append, hvalues,
        Sql.skeleton_append, Sql.skeleton_append]
  | compare comparisons =>
      rw [shape, pieces, pieces]
      apply skeleton_intercalate_map
      exact fun entry => entry.1.skeleton_shape column entry.2

def skeletonAlgebra : Clause.Algebra (List (Option Char)) (List (Option Char)) where
  clauses parts := (skeleton (plain " AND ")).intercalate parts
  any branches := skeleton (plain "( ") ++ (skeleton (plain " OR ")).intercalate branches ++
    skeleton (plain " )")
  all branches := skeleton (plain "( ") ++ (skeleton (plain " AND ")).intercalate branches ++
    skeleton (plain " )")
  like patterns := skeleton (piecesAlgebra.like patterns)
  column name condition := skeleton (condition.pieces name)

theorem skeletonAlgebra_hom : piecesAlgebra.Hom skeletonAlgebra skeleton skeleton where
  clauses := Sql.skeleton_intercalate _
  any branches := by
    show skeleton (plain "( " ++ (plain " OR ").intercalate branches ++ plain " )") = _
    rw [Sql.skeleton_append, Sql.skeleton_append, Sql.skeleton_intercalate]
    rfl
  all branches := by
    show skeleton (plain "( " ++ (plain " AND ").intercalate branches ++ plain " )") = _
    rw [Sql.skeleton_append, Sql.skeleton_append, Sql.skeleton_intercalate]
    rfl
  like _ := rfl
  column _ _ := rfl

theorem Predicate.skeleton_shape (predicate : Predicate) :
    skeleton predicate.shape.pieces = skeleton predicate.pieces := by
  have hskeleton : ∀ p : Predicate, skeleton p.pieces = p.fold skeletonAlgebra :=
    Predicate.fold_hom skeletonAlgebra_hom
  rw [hskeleton, hskeleton]
  apply predicate.fold_shape
  · intro patterns
    apply skeleton_intercalate_map (plain " AND ") patterns
    intro entry
    rw [likePieces, likePieces, Sql.skeleton_append, Sql.skeleton_append,
      entry.2.skeleton_decoded_shape]
  · exact fun name condition => condition.skeleton_shape name

theorem Predicate.hasRegex_shape (predicate : Predicate) :
    predicate.shape.hasRegex = predicate.hasRegex := by
  apply predicate.fold_shape
  · intro patterns
    show (patterns.map _).any _ = patterns.any _
    rw [List.any_map]
    congr 1
    funext entry
    exact entry.2.isRegex_shape
  · intro name condition
    rfl

/-! Each literal follows a character that is no quote. -/

/-- A value may follow a text that is not empty. -/
theorem Literal.fragment_after {text : String} (h : '\'' ∉ text.toList) (hne : text.toList ≠ [])
    (value : Literal) : Fragment (plain text ++ value.pieces) := by
  unfold pieces
  cases hcontent : value.content? with
  | none => exact (Fragment.plain h).append (.plain (not_mem_bare hcontent).1)
  | some content => exact .plain_literal h hne content

theorem Literal.fragment_decoded {text : String} (h : '\'' ∉ text.toList) (hne : text.toList ≠ [])
    (value : Literal) : Fragment (plain text ++ value.decodedPieces) := by
  unfold decodedPieces
  cases hcontent : value.content? with
  | none => exact (Fragment.plain h).append (.plain (not_mem_bare hcontent).1)
  | some content => exact .plain_literal h hne _

/-- So may a list of values, each of which comes after a comma or after that text. -/
theorem Literal.fragment_list {text : String} (h : '\'' ∉ text.toList) (hne : text.toList ≠ [])
    (values : List Literal) :
    Fragment (plain text ++ (plain ", ").intercalate (values.map Literal.pieces)) := by
  induction values generalizing text with
  | nil => simpa using Fragment.plain h
  | cons value rest ih =>
      cases rest with
      | nil => simpa using value.fragment_after h hne
      | cons next others =>
          have hnext := ih (by decide : '\'' ∉ ", ".toList) (by decide)
          rw [List.map_cons, List.map_cons, List.intercalate_cons_cons, ← List.map_cons,
            List.append_assoc, ← List.append_assoc]
          exact (value.fragment_after h hne).append hnext

/-- A column name and an operator have no quote as long as neither has, and are not empty. -/
theorem operator_after {column operator : String} (hcolumn : '\'' ∉ column.toList)
    (hoperator : '\'' ∉ operator.toList) (hne : operator.toList ≠ []) :
    '\'' ∉ (column ++ operator).toList ∧ (column ++ operator).toList ≠ [] := by
  rw [String.toList_append]
  refine ⟨fun hmem => ?_, fun hnil => hne (List.append_eq_nil_iff.1 hnil).2⟩
  rcases List.mem_append.1 hmem with hmem | hmem
  · exact hcolumn hmem
  · exact hoperator hmem

theorem fragment_compared {column operator : String} (hcolumn : '\'' ∉ column.toList)
    (hoperator : '\'' ∉ operator.toList) (hne : operator.toList ≠ []) (value : Literal) :
    Fragment (comparedPieces column operator value) := by
  obtain ⟨hquote, hnonempty⟩ := operator_after hcolumn hoperator hne
  exact value.fragment_after hquote hnonempty

theorem fragment_wildcard {column : String} (hcolumn : '\'' ∉ column.toList) (before : String)
    (value : Literal) (after : String) : Fragment (wildcardPieces column before value after) := by
  obtain ⟨hquote, hnonempty⟩ :=
    operator_after hcolumn (by decide : '\'' ∉ " LIKE ".toList) (by decide)
  exact .plain_literal hquote hnonempty _

theorem Comparator.fragment_pieces (comparator : Comparator) {column : String}
    (hcolumn : '\'' ∉ column.toList) (value : Literal) :
    Fragment (comparator.pieces column value) := by
  cases comparator with
  | lessThan | lessThanOrEqual | greaterThan | greaterThanOrEqual =>
      exact fragment_compared hcolumn (by decide) (by decide) value
  | not =>
      by_cases hnull : value.isNull = true
      · rw [pieces, if_pos hnull]
        exact .plain (operator_after hcolumn (by decide) (by decide)).1
      · rw [pieces, if_neg hnull]
        exact fragment_compared hcolumn (by decide) (by decide) value
  | like | contains | startsWith | endsWith => exact fragment_wildcard hcolumn _ value _

theorem Condition.fragment_pieces {column : String} (hcolumn : '\'' ∉ column.toList)
    (condition : Condition) : Fragment (condition.pieces column) := by
  cases condition with
  | equals value =>
      by_cases hnull : value.isNull = true
      · rw [pieces, equalityPieces, if_pos hnull]
        exact .plain (operator_after hcolumn (by decide) (by decide)).1
      · rw [pieces, equalityPieces, if_neg hnull]
        exact fragment_compared hcolumn (by decide) (by decide) value
  | isIn values =>
      obtain ⟨hquote, hnonempty⟩ :=
        operator_after hcolumn (by decide : '\'' ∉ " IN (".toList) (by decide)
      exact (Literal.fragment_list hquote hnonempty values).append (.plain (by decide))
  | compare comparisons =>
      apply Fragment.intercalate_map (.plain (by decide))
      exact fun entry _ => entry.1.fragment_pieces hcolumn entry.2

theorem Predicate.fragment_of_clauses {predicate : Predicate}
    (h : ∀ clause ∈ predicate, Fragment clause.pieces) : Fragment predicate.pieces :=
  Fragment.intercalate_map (.plain (by decide)) h

theorem Clause.fragment_pieces {clause : Clause}
    (hcolumns : ∀ column ∈ clause.columns, '\'' ∉ column.toList) : Fragment clause.pieces := by
  -- Branches stand between the same brackets, whichever operator joins them.
  have hbracketed : ∀ (branches : List Predicate) (operator : String), '\'' ∉ operator.toList →
      (∀ branch ∈ branches, ∀ clause ∈ branch, Fragment clause.pieces) →
      Fragment (plain "( " ++ (plain operator).intercalate (branches.map Predicate.pieces) ++
        plain " )") := by
    intro branches operator hoperator ih
    have hbranches : Fragment ((plain operator).intercalate (branches.map Predicate.pieces)) :=
      Fragment.intercalate_map (.plain hoperator) fun branch hbranch =>
        Predicate.fragment_of_clauses (ih branch hbranch)
    exact ((Fragment.plain (by decide)).append hbranches).append (.plain (by decide))
  refine Clause.induct_columns (motive := fun clause => Fragment clause.pieces) ?_ ?_ ?_ ?_ clause
    hcolumns
  · intro branches ih
    rw [pieces_any]
    exact hbracketed branches " OR " (by decide) ih
  · intro branches ih
    rw [pieces_all]
    exact hbracketed branches " AND " (by decide) ih
  · intro patterns hpatterns
    rw [pieces_like]
    apply Fragment.intercalate_map (.plain (by decide))
    intro entry hentry
    obtain ⟨hquote, hnonempty⟩ :=
      operator_after (hpatterns entry hentry) (by decide : '\'' ∉ " LIKE ".toList) (by decide)
    exact entry.2.fragment_decoded hquote hnonempty
  · intro name condition hname
    rw [pieces_column]
    exact condition.fragment_pieces hname

theorem Predicate.fragment_pieces {predicate : Predicate}
    (hcolumns : ∀ column ∈ predicate.columns, '\'' ∉ column.toList) :
    Fragment predicate.pieces := by
  apply Predicate.fragment_of_clauses
  intro clause hclause
  exact Clause.fragment_pieces (Predicate.forall_mem_columns.1 hcolumns clause hclause)

/-! What is read of a statement. -/

/-- The text does not end inside a literal. It has these literals, and this is the rest of it, with
a mark where each literal stands. -/
def Sql.Reads (text : String) (literals : List (List Char)) (rest : List (Option Char)) : Prop :=
  ∃ pieces, pieces? text = some pieces ∧ contents pieces = literals ∧ skeleton pieces = rest

theorem Sql.reads_written {pieces : List Piece} (h : Fragment pieces) :
    Reads (String.ofList (written pieces)) (contents pieces) (skeleton pieces) :=
  ⟨pieces, pieces?_ofList_written h, rfl, rfl⟩

theorem Predicate.reads {predicate : Predicate}
    (hcolumns : ∀ column ∈ predicate.columns, '\'' ∉ column.toList)
    (hregex : predicate.hasRegex = false) :
    ∃ text, predicate.sql = .ok text ∧
      Sql.Reads text predicate.contents (skeleton predicate.pieces) := by
  have hreads := Sql.reads_written (Predicate.fragment_pieces hcolumns)
  rw [Predicate.contents_pieces] at hreads
  exact ⟨_, sql_eq_ok_iff.2 ⟨hregex, rfl⟩, hreads⟩

/-- A predicate is rendered like any other of its shape, apart from what stands in literals. -/
theorem Predicate.reads_shape {p q : Predicate} {text : String}
    (hcolumns : ∀ column ∈ p.columns, '\'' ∉ column.toList) (hsql : p.sql = .ok text)
    (hshape : q.shape = p.shape) :
    ∃ other, q.sql = .ok other ∧ Sql.Reads other q.contents (skeleton p.pieces) := by
  have hregex : q.hasRegex = false := by
    rw [← q.hasRegex_shape, hshape, p.hasRegex_shape]
    exact (sql_eq_ok_iff.1 hsql).1
  have hcolumnsShape : q.columns = p.columns := by
    rw [← q.columns_shape, hshape, p.columns_shape]
  have hskeleton : skeleton q.pieces = skeleton p.pieces := by
    rw [← q.skeleton_shape, hshape, p.skeleton_shape]
  rw [← hskeleton]
  rw [← hcolumnsShape] at hcolumns
  exact Predicate.reads hcolumns hregex

namespace Criteria

/-- The columns that a plain select names. -/
def columns (criteria : Criteria) : List String :=
  criteria.filter.elim [] Predicate.columns ++ criteria.sort.map Prod.fst

theorem forall_mem_columns {P : String → Prop} {criteria : Criteria} :
    (∀ column ∈ criteria.columns, P column) ↔
      (∀ predicate ∈ criteria.filter, ∀ column ∈ predicate.columns, P column) ∧
        ∀ entry ∈ criteria.sort, P entry.1 := by
  rw [columns, List.forall_mem_append, List.forall_mem_map]
  cases criteria.filter with
  | none => simp
  | some predicate => simp

def contents (criteria : Criteria) : List (List Char) :=
  criteria.filter.elim [] Predicate.contents

theorem quote_not_mem_topSql (limit : Option Nat) : '\'' ∉ (topSql limit).toList := by
  unfold topSql
  split
  · decide
  · decide
  · rename_i n _
    have hn := Sql.quote_not_mem_of_isNumeral (Sql.isNumeral_natToString n)
    rw [String.toList_append, String.toList_append, List.mem_append, List.mem_append]
    rintro ((hmem | hmem) | hmem)
    · exact absurd hmem (by decide)
    · exact hn hmem
    · exact absurd hmem (by decide)

theorem quote_not_mem_orderSql {sort : List (String × SortOrder)}
    (h : ∀ entry ∈ sort, '\'' ∉ entry.1.toList) : '\'' ∉ (orderSql sort).toList := by
  have happend : ∀ {as bs : List Char}, '\'' ∉ as → '\'' ∉ bs → '\'' ∉ as ++ bs := by
    intro as bs ha hb hmem
    exact (List.mem_append.1 hmem).elim ha hb
  by_cases hsort : sort.isEmpty = true
  · rw [orderSql, if_pos hsort]
    decide
  · rw [orderSql, if_neg hsort, String.toList_append, String.toList_append, Text.toList_separated,
      List.map_map]
    refine happend (happend (by decide) ?_) (by decide)
    refine Text.intercalate_closed (P := fun cs => '\'' ∉ cs) (by decide) happend (by decide) ?_
    intro part hpart
    obtain ⟨entry, hentry, rfl⟩ := List.mem_map.1 hpart
    have horder : '\'' ∉ entry.2.sql.toList := by
      cases entry.2 <;> decide
    show '\'' ∉ (entry.1 ++ " " ++ entry.2.sql).toList
    rw [String.toList_append, String.toList_append]
    exact happend (happend (h entry hentry) (by decide)) horder

theorem fragment_plainPieces {table : String} {criteria : Criteria} (htable : '\'' ∉ table.toList)
    (hcolumns : ∀ column ∈ criteria.columns, '\'' ∉ column.toList) :
    Fragment (criteria.plainPieces table) := by
  have hhead : '\'' ∉ ("SELECT " ++ topSql criteria.limit ++ "* FROM " ++ table ++ " ").toList := by
    have htop := quote_not_mem_topSql criteria.limit
    simp [htop, htable]
  obtain ⟨hfilter, hsort⟩ := forall_mem_columns.1 hcolumns
  have horder : '\'' ∉ (orderSql criteria.sort).toList := quote_not_mem_orderSql hsort
  have hwhere : Fragment (wherePieces criteria.filter) := by
    cases hpredicate : criteria.filter with
    | none => exact .nil
    | some predicate =>
        have hpieces := Predicate.fragment_pieces (hfilter predicate hpredicate)
        exact ((Fragment.plain (by decide)).append hpieces).append (.plain (by decide))
  exact ((Fragment.plain hhead).append hwhere).append (.plain horder)

theorem contents_plainPieces (table : String) (criteria : Criteria) :
    Sql.contents (criteria.plainPieces table) = criteria.contents := by
  rw [plainPieces, Sql.contents_append, Sql.contents_append, Sql.contents_plain, Sql.contents_plain,
    List.nil_append, List.append_nil, contents]
  cases criteria.filter with
  | none => rfl
  | some predicate =>
      rw [wherePieces, Sql.contents_append, Sql.contents_append, Sql.contents_plain,
        Sql.contents_plain, List.nil_append, List.append_nil]
      exact predicate.contents_pieces

theorem reads {table : String} {criteria : Criteria} (hplain : criteria.isAggregate = false)
    (htable : '\'' ∉ table.toList) (hcolumns : ∀ column ∈ criteria.columns, '\'' ∉ column.toList)
    (hregex : criteria.hasRegex = false) :
    ∃ sql, criteria.select table = .ok sql ∧
      Sql.Reads sql.value criteria.contents (skeleton (criteria.plainPieces table)) := by
  have hreads := Sql.reads_written (fragment_plainPieces htable hcolumns)
  rw [contents_plainPieces] at hreads
  exact ⟨_, (select_eq_ok_iff hplain).2 ⟨hregex, rfl⟩, hreads⟩

/-- So is a plain select with another filter of the same shape. -/
theorem reads_shape {table : String} {criteria : Criteria} {sql : Logged String}
    {filter : Option Predicate} (hplain : criteria.isAggregate = false)
    (htable : '\'' ∉ table.toList) (hcolumns : ∀ column ∈ criteria.columns, '\'' ∉ column.toList)
    (hsql : criteria.select table = .ok sql)
    (hshape : filter.map Predicate.shape = criteria.filter.map Predicate.shape) :
    ∃ other, { criteria with filter }.select table = .ok other ∧
      Sql.Reads other.value { criteria with filter }.contents
        (skeleton (criteria.plainPieces table)) := by
  -- Whatever depends on the shape only is the same for both filters.
  have hshapes : ∀ {γ : Type} (f : Option Predicate → γ),
      (∀ filter, f (filter.map Predicate.shape) = f filter) → f filter = f criteria.filter := by
    intro γ f h
    rw [← h filter, hshape, h criteria.filter]
  have hregex : { criteria with filter }.hasRegex = false := by
    rw [← (Criteria.select_eq_ok_iff hplain).1 hsql |>.1]
    apply hshapes (Option.any Predicate.hasRegex)
    intro filter
    cases filter with
    | none => rfl
    | some predicate => exact predicate.hasRegex_shape
  have hcolumnsShape : { criteria with filter }.columns = criteria.columns := by
    apply congrArg (· ++ criteria.sort.map Prod.fst)
    apply hshapes fun filter => filter.elim [] Predicate.columns
    intro filter
    cases filter with
    | none => rfl
    | some predicate => exact predicate.columns_shape
  have hskeleton : skeleton ({ criteria with filter }.plainPieces table) =
      skeleton (criteria.plainPieces table) := by
    have hwhere : skeleton (wherePieces filter) = skeleton (wherePieces criteria.filter) := by
      apply hshapes fun filter => skeleton (wherePieces filter)
      intro filter
      cases filter with
      | none => rfl
      | some predicate =>
          simp only [Option.map_some, wherePieces, Sql.skeleton_append, predicate.skeleton_shape]
    rw [plainPieces, plainPieces, Sql.skeleton_append, Sql.skeleton_append, hwhere,
      Sql.skeleton_append, Sql.skeleton_append]
  rw [← hskeleton]
  rw [← hcolumnsShape] at hcolumns
  exact reads hplain htable hcolumns hregex

end Criteria

/-- Reading a condition, or a plain select, ends outside of literals and finds the literals that
are asked for; all else is the same for whatever other texts the values may have. -/
theorem literals_isolated :
    (∀ (predicate : Predicate) (text : String),
      (∀ column ∈ predicate.columns, '\'' ∉ column.toList) → predicate.sql = .ok text →
      ∃ rest, Sql.Reads text predicate.contents rest ∧
        ∀ variant : Predicate, variant.shape = predicate.shape →
          ∃ other, variant.sql = .ok other ∧ Sql.Reads other variant.contents rest) ∧
    (∀ (table : String) (criteria : Criteria) (sql : Logged String),
      criteria.isAggregate = false → '\'' ∉ table.toList →
      (∀ column ∈ criteria.columns, '\'' ∉ column.toList) → criteria.select table = .ok sql →
      ∃ rest, Sql.Reads sql.value criteria.contents rest ∧
        ∀ filter, filter.map Predicate.shape = criteria.filter.map Predicate.shape →
          ∃ other, { criteria with filter }.select table = .ok other ∧
            Sql.Reads other.value { criteria with filter }.contents rest) := by
  refine ⟨fun predicate text hcolumns hsql => ?_,
    fun table criteria sql hplain htable hcolumns hsql => ?_⟩
  · have hreads := Predicate.reads_shape hcolumns hsql rfl
    obtain ⟨other, hother, hreads⟩ := hreads
    obtain rfl := Except.ok.inj (hsql.symm.trans hother)
    exact ⟨_, hreads, fun variant hshape => Predicate.reads_shape hcolumns hsql hshape⟩
  · have hreads := Criteria.reads_shape hplain htable hcolumns hsql rfl
    obtain ⟨other, hother, hreads⟩ := hreads
    obtain rfl := Except.ok.inj (hsql.symm.trans hother)
    exact ⟨_, hreads, fun filter hshape =>
      Criteria.reads_shape hplain htable hcolumns hsql hshape⟩

/-- An attempt to break out of a literal, and one out of the pattern of a like map. -/
theorem literals_isolated_injection :
    (∃ rest, Sql.Reads "name=''' OR 1=1 --'" ["' OR 1=1 --".toList] rest ∧
      ∀ variant : Predicate, variant.shape = [.column "name" (.equals (.text ""))] →
        ∃ other, variant.sql = .ok other ∧ Sql.Reads other variant.contents rest) ∧
    (∃ rest, Sql.Reads "SELECT TOP 2 * FROM P WHERE name LIKE '\\%''' ORDER BY age DESC "
        ["\\%'".toList] rest ∧
      ∀ filter, filter.map Predicate.shape = some [.like [("name", .text "")]] →
        ∃ other, { Criteria.empty with
              filter, sort := [("age", .descending)], limit := some 2 }.select "P" = .ok other ∧
          Sql.Reads other.value (filter.elim [] Predicate.contents) rest) := by
  have hname : '\'' ∉ "name".toList := by decide
  constructor
  · apply literals_isolated.1 [.column "name" (.equals (.text "' OR 1=1 --"))] _
    · intro column hcolumn
      rw [List.mem_singleton.1 hcolumn]
      exact hname
    · rfl
  · apply literals_isolated.2 "P" { Criteria.empty with
        filter := some [.like [("name", .text "%%%'")]], sort := [("age", .descending)],
        limit := some 2 } ⟨_, []⟩
    · rfl
    · decide
    · decide
    · rfl

end CriteriaSql
