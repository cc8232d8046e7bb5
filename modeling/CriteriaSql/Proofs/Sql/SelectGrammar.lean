import CriteriaSql.Proofs.Sql.AggregateLexing
import CriteriaSql.Proofs.Sql.Emptiness
import CriteriaSql.Proofs.Sql.SelectMeaning

/-! Which selects are sentences of the grammar. -/

namespace CriteriaSql

open Sql (Adjoins Columns InPlace Item Select Sentence Token written)

namespace Criteria

/-! Plain selects. -/

/-- A select with the tokens of a plain one agrees with it after the name of the table. -/
theorem clauseTokens_eq {table : String} {criteria : Criteria} {select : Select}
    (h : criteria.plainTokens table = select.tokens) :
    criteria.clauseTokens =
      Select.whereTokens select.condition ++ Select.orderTokens select.order := by
  rw [plainTokens, select.tokens_eq] at h
  generalize Select.whereTokens select.condition ++ Select.orderTokens select.order = others at *
  -- Tokens are read in one way only, so both sides have the same top, and then the same columns.
  have htop : Sql.readTop (Select.topTokens (top criteria.limit) ++
      (.star :: .word "FROM" :: .word table :: criteria.clauseTokens)) =
      some (top criteria.limit, .star :: .word "FROM" :: .word table :: criteria.clauseTokens) :=
    Sql.readTop_tokens _ (by simp)
  rw [(List.cons.inj h).2, Sql.readTop_tokens select.top fun t ht => Sql.head?_columnsTokens ht]
    at htop
  have hcolumns : Sql.readColumns
      (select.columns.tokens ++ .word "FROM" :: .word select.table.text :: others) =
      some (select.columns, .word "FROM" :: .word select.table.text :: others) :=
    Sql.readColumns_tokens _ (by simp)
  rw [(Prod.mk.inj (Option.some.inj htop)).2, Sql.readColumns] at hcolumns
  have hrest := (Prod.mk.inj (Option.some.inj hcolumns)).2
  exact (List.cons.inj (List.cons.inj hrest).2).2

/-- The filter stands between WHERE and what comes after it. -/
theorem filter_inPlace {predicate : Predicate} {sort : List (String × SortOrder)}
    (h : (whereTokens (some predicate) ++ (orderTokens sort ++ [Token.closing])).IsChain Adjoins) :
    InPlace predicate.tokens := by
  have hafter : ∃ after rest, Token.closes after ∧
      orderTokens sort ++ [Token.closing] = after :: rest := by
    unfold orderTokens
    by_cases hsort : sort.isEmpty = true
    · rw [if_pos hsort]
      exact ⟨.closing, [], rfl, rfl⟩
    · rw [if_neg hsort]
      exact ⟨.word "ORDER", _, by decide, rfl⟩
  obtain ⟨after, rest, hcloses, hafter⟩ := hafter
  rw [whereTokens, hafter, List.cons_append, List.isChain_cons_split] at h
  exact ⟨.word "WHERE", after, by decide, hcloses, h.1⟩

theorem isFilled_of_sentence {table : String} {criteria : Criteria}
    (htable : Sql.isWord table.toList)
    (hcolumns : ∀ column ∈ criteria.columns, Sql.isWord column.toList)
    (h : Sentence (String.ofList (written (criteria.plainPieces table)))) :
    ∀ predicate ∈ criteria.filter, predicate.isFilled := by
  intro predicate hpredicate
  obtain ⟨select, hselect⟩ := h
  rw [lexed?_plain htable hcolumns] at hselect
  have hchain := Sql.isChain_clauses select.condition select.order
  rw [← List.append_assoc, ← clauseTokens_eq (Option.some.inj hselect), clauseTokens,
    Option.mem_def.1 hpredicate, List.append_assoc] at hchain
  exact Predicate.isFilled_of_inPlace (filter_inPlace hchain)

theorem sentence_plain_iff {table : String} {criteria : Criteria} (htable : Sql.isWord table.toList)
    (hcolumns : ∀ column ∈ criteria.columns, Sql.isName column) :
    Sentence (String.ofList (written (criteria.plainPieces table))) ↔
      ∀ predicate ∈ criteria.filter, predicate.isFilled := by
  have hwords : ∀ column ∈ criteria.columns, Sql.isWord column.toList :=
    fun column hcolumn => Sql.isWord_of_isName (hcolumns column hcolumn)
  constructor
  · exact isFilled_of_sentence htable hwords
  · intro hfilled
    obtain ⟨select, htokens, _⟩ := exists_select htable hcolumns hfilled
    exact ⟨select, by rw [lexed?_plain htable hwords, htokens]⟩

/-! Aggregate selects. -/

/-- The tokens are those of a select of one item for each output. -/
theorem lexed?_aggregate_items {table : String} {criteria : Criteria}
    (htable : Sql.isWord table.toList) (haggregate : criteria.isAggregate)
    (hcolumns : ∀ output ∈ criteria.outputs, Sql.isName output.column) :
    ∃ first rest, criteria.outputs.pmap Output.item hcolumns = first :: rest ∧
      Sql.lexed? (criteria.aggregateSql table) =
        some (Select.tokens ⟨none, .items first rest, ⟨table, htable⟩, none, []⟩) := by
  have hwords : ∀ output ∈ criteria.outputs, Sql.isWord output.column.toList :=
    fun output houtput => Sql.isWord_of_isName (hcolumns output houtput)
  have hitems : (criteria.outputs.pmap Output.item hcolumns).map Item.tokens =
      criteria.outputs.map Output.tokens := by
    rw [List.map_pmap, ← List.pmap_eq_map hcolumns]
    exact List.pmap_congr_left _ fun output _ h _ => Output.tokens_item h
  cases hlist : criteria.outputs.pmap Output.item hcolumns with
  | nil => exact absurd (List.pmap_eq_nil_iff.1 hlist) (outputs_ne_nil haggregate)
  | cons first rest =>
      -- There is an item at least, which the grammar asks for.
      rw [hlist, List.map_cons] at hitems
      refine ⟨first, rest, rfl, ?_⟩
      rw [lexed?_aggregate htable hwords, aggregateTokens, ← hitems, Sql.intercalate_eq_following]
      simp [Select.tokens, Select.topTokens, Columns.tokens, Select.whereTokens, Select.orderTokens]

theorem sentence_aggregate {table : String} {criteria : Criteria} (htable : Sql.isWord table.toList)
    (haggregate : criteria.isAggregate)
    (hcolumns : ∀ output ∈ criteria.outputs, Sql.isName output.column) :
    Sentence (criteria.aggregateSql table) := by
  obtain ⟨first, rest, -, hlexed⟩ := lexed?_aggregate_items htable haggregate hcolumns
  exact ⟨_, hlexed⟩

theorem IsRead.outputs_mem_names {members : List (String × Json)} {criteria : Criteria}
    (read : IsRead members criteria) {output : Output} (h : output ∈ criteria.outputs) :
    output.column ∈ names members := by
  unfold names
  apply List.mem_append_right
  rw [List.mem_flatMap]
  simp only [outputs, List.mem_append, List.mem_map] at h
  rcases h with (((⟨column, hmem, rfl⟩ | ⟨column, hmem, rfl⟩) | ⟨column, hmem, rfl⟩) |
    ⟨column, hmem, rfl⟩) | ⟨column, hmem, rfl⟩
  · exact ⟨"groupBy", by decide, by rwa [columnNames_eq read.groupBy]⟩
  · exact ⟨"sum", by decide, by rwa [columnNames_eq read.sum]⟩
  · exact ⟨"average", by decide, by rwa [columnNames_eq read.average]⟩
  · exact ⟨"max", by decide, by rwa [columnNames_eq read.max]⟩
  · exact ⟨"min", by decide, by rwa [columnNames_eq read.min]⟩

theorem value_of_isAggregate {table : String} {criteria : Criteria} {sql : Logged String}
    (h : criteria.isAggregate) (hselect : criteria.select table = .ok sql) :
    sql.value = criteria.aggregateSql table := by
  obtain ⟨_, _, hselect⟩ := eq_ok_of_bind hselect
  rw [if_pos h] at hselect
  rw [← Except.ok.inj hselect]

end Criteria

open Criteria in
/-- A filter with nothing in it is left out, but nothing keeps out what is empty further inside.
So a text is a sentence only if no map, and no list of branches or values, is empty there. -/
theorem select_sentence_iff {table : String} {members : List (String × Json)}
    {sql : Logged String} (htable : Sql.isWord table.toList)
    (hnames : ∀ name ∈ names members, Sql.isName name)
    (hsql : selectOfJson table (.object members) = .ok sql) :
    Sentence sql.value ↔
      (∃ key ∈ columnKeys, columnNames members key ≠ []) ∨ HasFilled members := by
  obtain ⟨criteria, hcriteria, hselect⟩ := eq_ok_of_bind hsql
  have read := isRead_of_ofMembers hcriteria
  have hkeys : (∃ key ∈ columnKeys, columnNames members key ≠ []) ↔ criteria.isAggregate := by
    rw [← Bool.not_eq_false, ← read.isAggregate_eq_false_iff]
    simp
  rw [hkeys, read.hasFilled_iff]
  cases haggregate : criteria.isAggregate with
  | true =>
      -- An aggregate select has at least one output, and no filter.
      have hsentence : Sentence (criteria.aggregateSql table) :=
        sentence_aggregate htable haggregate fun output houtput =>
          hnames _ (read.outputs_mem_names houtput)
      rw [value_of_isAggregate haggregate hselect]
      exact iff_of_true hsentence (.inl rfl)
  | false =>
      obtain ⟨_, rfl⟩ := (select_eq_ok_iff haggregate).1 hselect
      have hcolumns : ∀ column ∈ criteria.columns, Sql.isName column :=
        fun column hcolumn => hnames column (read.mem_names hcolumn)
      rw [sentence_plain_iff htable hcolumns]
      simp

/-- A list of branches that is not empty, in which every branch has something to say. -/
theorem select_sentence_and :
    Sentence "SELECT * FROM T WHERE ( a=1 ) " := by
  have hsentence := @select_sentence_iff "T"
    [("where", .object [("and", .array [.object [("a", .number (.integer 1))]])])]
    ⟨"SELECT * FROM T WHERE ( a=1 ) ", []⟩ (by decide) (by decide) rfl
  refine hsentence.2 (.inr ?_)
  intro value hvalue
  obtain rfl := Option.some.inj hvalue
  exact .inr (.inr (by decide))

/-- An empty map of patterns is accepted, and WHERE is left with no condition. -/
theorem not_sentence_empty_like :
    selectOfJson "T" (.object [("where", .object [("like", .object [])])]) =
        .ok ⟨"SELECT * FROM T WHERE  ", []⟩ ∧
      ¬ Sentence "SELECT * FROM T WHERE  " := by
  refine ⟨rfl, ?_⟩
  rintro ⟨select, hselect⟩
  have hread := Sql.read?_of_lexed? hselect
  have hnone : Sql.read? "SELECT * FROM T WHERE  " = none := by decide
  rw [hnone] at hread
  cases hread

end CriteriaSql
