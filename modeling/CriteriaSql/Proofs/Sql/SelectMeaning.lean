import CriteriaSql.Proofs.Criteria.Acceptance
import CriteriaSql.Proofs.Sql.JsonMeaning
import CriteriaSql.Proofs.Sql.Reader
import CriteriaSql.Proofs.Sql.SelectLexing

/-! What a select means that was made from criteria in JSON. -/

namespace CriteriaSql

open Sql (Name Select Truth)

namespace Criteria

/-! The parts of criteria, as JSON has them and as they are read. -/

/-- The columns to sort by, each with its direction. -/
def sortEntries (members : List (String × Json)) : List (String × Json) :=
  (members.lookup "sort").elim [] Json.entries

/-- All the columns that are named anywhere. -/
def names (members : List (String × Json)) : List String :=
  (members.lookup "where").elim [] Json.columns ++ (sortEntries members).map Prod.fst ++
    columnKeys.flatMap (columnNames members)

/-- Nothing in the filter is empty, unless all of it is. -/
def HasFilled (members : List (String × Json)) : Prop :=
  ∀ value, members.lookup "where" = some value →
    value = .null ∨ value = .object [] ∨ value.isFilled

theorem IsRead.sort_eq {members : List (String × Json)} {criteria : Criteria}
    (read : IsRead members criteria) :
    criteria.sort = (sortEntries members).map fun entry => (entry.1, .ofJson entry.2) := by
  have hsort := read.sort
  unfold sortOf at hsort
  unfold sortEntries
  split at hsort
  · rename_i hgiven
    rw [← Except.ok.inj hsort]
    cases hlookup : members.lookup "sort" with
    | none => rfl
    | some value =>
        rw [given?_eq_none_iff.1 hgiven value hlookup]
        rfl
  · rename_i columns hgiven
    rw [(given?_eq_some_iff.1 hgiven).1, ← Except.ok.inj hsort]
    rfl
  · cases hsort

theorem IsRead.limit_eq_some_iff {members : List (String × Json)} {criteria : Criteria}
    (read : IsRead members criteria) {n : Nat} :
    criteria.limit = some n ↔ members.lookup "limit" = some (.number (.integer n)) := by
  have hlimit := read.limit
  unfold limitOf at hlimit
  cases hgiven : given? members "limit" with
  | none =>
      rw [hgiven] at hlimit
      rw [← Except.ok.inj hlimit]
      refine iff_of_false (by simp) fun hlookup => ?_
      cases given?_eq_none_iff.1 hgiven _ hlookup
  | some value =>
      rw [hgiven] at hlimit
      rw [(given?_eq_some_iff.1 hgiven).1]
      simp only at hlimit
      -- What is read as a limit is a number that is written as a natural one.
      split at hlimit
      · rename_i m hm
        have hvalue : value = .number (.integer (.ofNat m)) := by
          cases value with
          | number number =>
              cases number with
              | integer k => rw [Option.some.inj hm]
              | float x => cases hm
          | null | bool _ | string _ | array _ | object _ => cases hm
        split at hlimit
        · rw [← Except.ok.inj hlimit, hvalue]
          simp only [Option.some.injEq, Json.number.injEq, Json.Number.integer.injEq,
            Int.ofNat_eq_natCast]
          omega
        · cases hlimit
      · cases hlimit

/-- The filter that is read, which is none if nothing is in it. -/
theorem IsRead.filter_cases {members : List (String × Json)} {criteria : Criteria}
    (read : IsRead members criteria) :
    ((∀ value, members.lookup "where" = some value → value = .null ∨ value = .object []) ∧
      criteria.filter = none) ∨
    ∃ entry rest predicate, members.lookup "where" = some (.object (entry :: rest)) ∧
      Predicate.ofJson (.object (entry :: rest)) = .ok predicate ∧
      criteria.filter = some predicate := by
  have hfilter := read.filter
  unfold filterOf at hfilter
  cases hgiven : given? members "where" with
  | none =>
      rw [hgiven] at hfilter
      refine .inl ⟨fun value hlookup => ?_, (Except.ok.inj hfilter).symm⟩
      exact .inl (given?_eq_none_iff.1 hgiven value hlookup)
  | some value =>
      have hlookup := (given?_eq_some_iff.1 hgiven).1
      rw [hgiven] at hfilter
      obtain ⟨predicate, hpredicate, hread⟩ := eq_ok_of_bind hfilter
      have hnone := (Except.ok.inj hread).symm
      cases hmembers : value.members? with
      | none =>
          rw [Predicate.ofJson_noMap hmembers] at hpredicate
          cases hpredicate
      | some entries =>
          obtain rfl : value = .object entries := by
            cases value with
            | object others => exact congrArg Json.object (Option.some.inj hmembers)
            | null | bool _ | number _ | string _ | array _ => cases hmembers
          -- There are as many clauses as members, so the one list is empty if the other is.
          have hlength : entries.map (fun _ => ()) = predicate.map fun _ => () := by
            rw [Predicate.ofJson_object] at hpredicate
            exact map_eq_of_mapM hpredicate fun _ _ _ _ => rfl
          cases entries with
          | nil =>
              rw [List.map_nil, eq_comm, List.map_eq_nil_iff] at hlength
              rw [hlength] at hnone
              refine .inl ⟨fun value hvalue => .inr ?_, hnone⟩
              exact Option.some.inj (hvalue.symm.trans hlookup)
          | cons entry rest =>
              cases predicate with
              | nil => cases hlength
              | cons clause clauses => exact .inr ⟨entry, rest, _, hlookup, hpredicate, hnone⟩

theorem IsRead.mem_names {members : List (String × Json)} {criteria : Criteria}
    (read : IsRead members criteria) {column : String} (h : column ∈ criteria.columns) :
    column ∈ names members := by
  unfold names
  rw [columns, List.mem_append] at h
  rw [List.mem_append, List.mem_append]
  rcases h with h | h
  · rcases read.filter_cases with ⟨_, hfilter⟩ |
      ⟨entry, rest, predicate, hlookup, hpredicate, hfilter⟩
    · rw [hfilter] at h
      cases h
    · rw [hfilter] at h
      rw [hlookup, Option.elim_some, columns_ofJson hpredicate]
      exact .inl (.inl h)
  · rw [read.sort_eq, List.map_map] at h
    exact .inl (.inr h)

theorem IsRead.hasFilled_iff {members : List (String × Json)} {criteria : Criteria}
    (read : IsRead members criteria) :
    HasFilled members ↔ ∀ predicate ∈ criteria.filter, predicate.isFilled := by
  unfold HasFilled
  rcases read.filter_cases with ⟨hempty, hfilter⟩ |
    ⟨entry, rest, predicate, hlookup, hpredicate, hfilter⟩
  · rw [hfilter]
    refine iff_of_true (fun value hvalue => ?_) (by simp)
    exact (hempty value hvalue).imp id .inl
  · simp [hlookup, hfilter, isFilled_ofJson hpredicate]

/-! The select of the grammar. -/

theorem exists_names {sort : List (String × SortOrder)}
    (h : ∀ entry ∈ sort, Sql.isName entry.1) :
    ∃ order : List (Name × SortOrder), order.map (fun entry => (entry.1.text, entry.2)) = sort := by
  induction sort with
  | nil => exact ⟨[], rfl⟩
  | cons entry rest ih =>
      obtain ⟨order, horder⟩ := ih fun e he => h e (List.mem_cons_of_mem _ he)
      refine ⟨(⟨entry.1, h entry List.mem_cons_self⟩, entry.2) :: order, ?_⟩
      rw [List.map_cons, horder]

theorem orderTokens_names (order : List (Name × SortOrder)) :
    orderTokens (order.map fun entry => (entry.1.text, entry.2)) = Select.orderTokens order := by
  cases order with
  | nil => rfl
  | cons first rest =>
      have hentries : ((first :: rest).map fun entry => (entry.1.text, entry.2)).map entryTokens =
          Select.entryTokens first :: rest.map Select.entryTokens := by
        rw [List.map_map]
        rfl
      rw [orderTokens, hentries, Sql.intercalate_eq_following, Select.orderTokens, List.map_cons,
        if_neg (by simp)]
      rfl

/-- A plain select is one of the grammar as long as its filter is filled. -/
theorem exists_select {table : String} {criteria : Criteria} (htable : Sql.isWord table.toList)
    (hcolumns : ∀ column ∈ criteria.columns, Sql.isName column)
    (hfilled : ∀ predicate ∈ criteria.filter, predicate.isFilled) :
    ∃ select : Select, select.tokens = criteria.plainTokens table ∧
      select.top = top criteria.limit ∧ select.columns = .all ∧ select.table.text = table ∧
      select.order.map (fun entry => (entry.1.text, entry.2)) = criteria.sort ∧
      select.condition.isSome = criteria.filter.isSome ∧
      ∀ condition ∈ select.condition, ∀ predicate ∈ criteria.filter, ∀ assignment,
        condition.truth assignment = predicate.truth assignment := by
  obtain ⟨hpredicates, hsort⟩ := forall_mem_columns.1 hcolumns
  obtain ⟨order, horder⟩ := exists_names hsort
  -- All but the condition is settled, whether there is a filter or not.
  have htokens : ∀ condition, Select.whereTokens condition = whereTokens criteria.filter →
      (Select.mk (top criteria.limit) .all ⟨table, htable⟩ condition order).tokens =
        criteria.plainTokens table := by
    intro condition hcondition
    rw [Select.tokens, hcondition, plainTokens, clauseTokens, ← horder, orderTokens_names]
    simp [Sql.Columns.tokens]
  cases hfilter : criteria.filter with
  | none =>
      rw [hfilter] at htokens
      refine ⟨_, htokens none rfl, rfl, rfl, rfl, horder, rfl, ?_⟩
      intro condition hcondition
      cases hcondition
  | some predicate =>
      obtain ⟨term, hterm, htruth⟩ :=
        Predicate.isTerm (hpredicates predicate hfilter) (hfilled predicate hfilter)
      rw [hfilter] at htokens
      refine ⟨_, htokens (some (.term term)) ?_, rfl, rfl, rfl, horder, rfl, ?_⟩
      · rw [Select.whereTokens, whereTokens, Sql.SearchCondition.tokens, hterm]
      · intro condition hcondition other hother assignment
        obtain rfl := Option.some.inj hcondition
        obtain rfl := Option.some.inj hother
        rw [Sql.SearchCondition.truth, htruth]

end Criteria

/-- The number one, as an integer or not. -/
def Json.IsOne (json : Json) : Prop :=
  json = .number (.integer 1) ∨ json = .number (.float .one)

theorem SortOrder.ofJson_eq_ascending_iff {json : Json} :
    ofJson json = .ascending ↔ json.IsOne := by
  unfold ofJson Json.IsOne
  split
  · rename_i n
    by_cases hn : n = 1
    · simp [hn]
    · simp [hn]
  · rename_i x
    by_cases hx : x = .one
    · simp [hx]
    · simp [hx]
  · rename_i hinteger hfloat
    constructor
    · intro h
      cases h
    · rintro (h | h)
      · exact absurd h (hinteger 1)
      · exact absurd h (hfloat .one)

open Criteria in
/-- A plain select is read as one select, which asks for just what the criteria ask for. Its
condition has the truth value of the filter, whatever the comparisons are worth. -/
theorem select_meaning {table : String} {members : List (String × Json)} {sql : Logged String}
    (htable : Sql.isWord table.toList)
    (hsql : selectOfJson table (.object members) = .ok sql)
    (hplain : ∀ key ∈ columnKeys, columnNames members key = [])
    (hnames : ∀ name ∈ names members, Sql.isName name) (hfilled : HasFilled members) :
    ∃ select : Select, Sql.read? sql.value = some select ∧
      select.columns = .all ∧ select.table.text = table ∧
      (∀ n : Nat, select.top = some n ↔
        0 < n ∧ members.lookup "limit" = some (.number (.integer n))) ∧
      List.Forall₂ (fun entry column => entry.1.text = column.1 ∧
        (entry.2 = .ascending ↔ Json.IsOne column.2)) select.order (sortEntries members) ∧
      (select.condition.isSome ↔
        ∃ entry rest, members.lookup "where" = some (.object (entry :: rest))) ∧
      ∀ condition ∈ select.condition, ∀ value ∈ members.lookup "where", ∀ assignment,
        condition.truth assignment = value.truth assignment := by
  obtain ⟨criteria, hcriteria, hselect⟩ := eq_ok_of_bind hsql
  have read := isRead_of_ofMembers hcriteria
  -- Nothing is grouped or calculated, so that filter, order and limit are all there is.
  have haggregate := read.isAggregate_eq_false_iff.1 hplain
  have hcolumns : ∀ column ∈ criteria.columns, Sql.isName column :=
    fun column hcolumn => hnames column (read.mem_names hcolumn)
  obtain ⟨_, rfl⟩ := (select_eq_ok_iff haggregate).1 hselect
  obtain ⟨select, htokens, htop, hall, hname, horder, hsome, htruth⟩ :=
    exists_select htable hcolumns (read.hasFilled_iff.1 hfilled)
  refine ⟨select, ?_, hall, hname, ?_, ?_, ?_, ?_⟩
  · -- The select is read from the tokens of the text, which are its own.
    apply Sql.read?_of_lexed?
    rw [htokens]
    exact lexed?_plain htable fun column hcolumn => Sql.isWord_of_isName (hcolumns column hcolumn)
  · intro n
    rw [htop, top, Option.filter_eq_some_iff, read.limit_eq_some_iff, decide_eq_true_eq]
    exact and_comm
  · -- The order is equal to that of the criteria, entry by entry.
    have hentries : List.Forall₂ (· = ·)
        (select.order.map fun entry => (entry.1.text, entry.2))
        ((sortEntries members).map fun column => (column.1, SortOrder.ofJson column.2)) := by
      rw [horder, read.sort_eq]
      exact List.forall₂_refl _
    rw [List.forall₂_map_left_iff, List.forall₂_map_right_iff] at hentries
    refine hentries.imp fun entry column hentry => ?_
    obtain ⟨htext, hdirection⟩ := Prod.mk.inj hentry
    exact ⟨htext, by rw [hdirection, SortOrder.ofJson_eq_ascending_iff]⟩
  · rw [hsome]
    rcases read.filter_cases with ⟨hempty, hfilter⟩ | ⟨entry, rest, _, hlookup, _, hfilter⟩
    · rw [hfilter]
      refine iff_of_false (by simp) ?_
      rintro ⟨entry, rest, hlookup⟩
      rcases hempty _ hlookup with h | h <;> cases h
    · rw [hfilter]
      exact iff_of_true rfl ⟨entry, rest, hlookup⟩
  · intro condition hcondition value hvalue assignment
    rcases read.filter_cases with ⟨_, hfilter⟩ |
      ⟨entry, rest, predicate, hlookup, hpredicate, hfilter⟩
    · rw [hfilter, Option.mem_def.1 hcondition] at hsome
      cases hsome
    · rw [hlookup] at hvalue
      obtain rfl := Option.some.inj hvalue
      rw [truth_ofJson assignment hpredicate]
      exact htruth condition hcondition predicate hfilter assignment

/-- Two branches, of several conditions and of one, beside a list, a pattern, a comparison with
null, and values that are written as a date, as two and a half and as JSON. -/
def branchingCriteria : List (String × Json) :=
  [("limit", .number (.integer 5)),
    ("sort", .object [("a", .number (.integer 1)), ("b", .number (.integer (-1)))]),
    ("where", .object [
      ("Or", .array [
        .object [("a", .object [(">=", .number (.integer 1)), ("lessThan", .number (.integer 9))]),
          ("b", .object [("contains", .string "'")])],
        .object [("c", .null)]]),
      ("d", .array [.number (.integer 2), .string "x"]),
      ("like", .object [("e", .string "50%%%")]),
      ("f", .object [("!", .null)]),
      ("g", .object [("$date", .string "2024-02-29T23:30:00.5+01:00")]),
      ("h", .number (.float (.finite false 5629499534213120 (-51) (by decide)))),
      ("i", .object [("k", .array [.bool true])])])]

set_option maxRecDepth 4096 in
/-- AND within a branch, and OR between branches without brackets of their own. -/
theorem select_meaning_branches :
    ∃ (sql : Logged String) (select : Select),
      selectOfJson "P" (.object branchingCriteria) = .ok sql ∧
      sql.value = "SELECT TOP 5 * FROM P WHERE ( a>=1 AND a<9 AND b LIKE '%''%' OR c IS NULL ) " ++
        "AND d IN (2, 'x') AND e LIKE '50\\%' AND f IS NOT NULL AND g='2024-02-29 22:30:00' " ++
        "AND h=2.5 AND i='\x7b k :[true]\x7d' ORDER BY a ASC, b DESC " ∧
      Sql.read? sql.value = some select ∧ select.top = some 5 ∧
      select.order.map (fun entry => (entry.1.text, entry.2)) =
        [("a", .ascending), ("b", .descending)] ∧
      select.condition.isSome ∧
      ∀ condition ∈ select.condition, ∀ assignment,
        condition.truth assignment = Truth.all [
          Truth.any [
            Truth.all [
              Truth.all [assignment (.compare "a" .greaterOrEqual (.number "1")),
                assignment (.compare "a" .less (.number "9"))],
              Truth.all [assignment (.compare "b" .like (.text ['%', '\'', '%']))]],
            Truth.all [assignment (.isNull "c")]],
          Truth.any [assignment (.compare "d" .equal (.number "2")),
            assignment (.compare "d" .equal (.text ['x']))],
          Truth.all [assignment (.compare "e" .like (.text ['5', '0', '\\', '%']))],
          Truth.all [assignment (.isNotNull "f")],
          assignment (.compare "g" .equal (.text "2024-02-29 22:30:00".toList)),
          assignment (.compare "h" .equal (.number "2.5")),
          assignment (.compare "i" .equal (.text "\x7b k :[true]\x7d".toList))] := by
  obtain ⟨sql, hsql, htext⟩ : ∃ sql : Logged String,
      selectOfJson "P" (.object branchingCriteria) = .ok sql ∧
      sql.value = "SELECT TOP 5 * FROM P WHERE ( a>=1 AND a<9 AND b LIKE '%''%' OR c IS NULL ) " ++
        "AND d IN (2, 'x') AND e LIKE '50\\%' AND f IS NOT NULL AND g='2024-02-29 22:30:00' " ++
        "AND h=2.5 AND i='\x7b k :[true]\x7d' ORDER BY a ASC, b DESC " :=
    ⟨_, rfl, by decide +kernel⟩
  obtain ⟨select, hread, -, -, htop, horder, hsome, htruth⟩ :=
    select_meaning (by decide) hsql (by decide) (by decide) (by
      intro value hvalue
      obtain rfl := Option.some.inj hvalue
      exact .inr (.inr (by decide)))
  refine ⟨sql, select, hsql, htext, hread, (htop 5).2 ⟨by decide, rfl⟩, ?_, hsome.2 ⟨_, _, rfl⟩, ?_⟩
  · have hone : Json.IsOne (.number (.integer 1)) := .inl rfl
    have hother : ¬ Json.IsOne (.number (.integer (-1))) := by
      rintro (h | h) <;> cases h
    match select.order, horder with
    | [_, (_, .ascending)], .cons _ (.cons hb .nil) => exact absurd (hb.2.1 rfl) hother
    | [_, (_, .descending)], .cons ha (.cons hb .nil) =>
        rw [List.map_cons, List.map_singleton, ha.1, hb.1, ha.2.2 hone]
  · intro condition hcondition assignment
    rw [htruth condition hcondition _ rfl assignment]
    rfl

end CriteriaSql
