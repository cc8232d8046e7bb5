import CriteriaSql.Proofs.Sql.Reader
import CriteriaSql.Proofs.Sql.SelectLexing
import CriteriaSql.Statement.Basic

/-!
Inserts are read back: the columns and the values that a reader finds are those of the map, each
in its place, whatever the values contain.
-/

namespace CriteriaSql

open Sql (Fragment Piece Token isWord pieces? plain tokens? written)

namespace Sql

/-- What an insert says. -/
structure Insert where
  table : String
  columns : List String
  values : List Value

/-- A value as it is written in a statement. -/
def Value.sql : Value → String
  | null => "NULL"
  | number digits => digits
  | text content => String.ofList (Piece.literal content).chars

def readWord : Reader String
  | .word text :: ts => some (text, ts)
  | _ => none

/-- Items in brackets with commas between them, if there are any. -/
def readBracketed (item : Reader α) : Reader (List α)
  | .opening :: .closing :: ts => some ([], ts)
  | .opening :: ts => do
      let (first, ts) ← item ts
      let (rest, ts) ← readFollowing .comma item ts.length ts
      match ts with
      | .closing :: ts => return (first :: rest, ts)
      | _ => none
  | _ => none

def readRow : List Token → Option Insert
  | .word "INSERT" :: .word "INTO" :: .word table :: ts => do
      let (columns, ts) ← readBracketed readWord ts
      match ts with
      | .word "VALUES" :: ts => do
          let (values, ts) ← readBracketed readValue ts
          if ts.isEmpty then return ⟨table, columns, values⟩ else none
      | _ => none
  | _ => none

/-- The select of the key that the new row was given. -/
def keyPieces : List Piece :=
  plain " SELECT @@IDENTITY AS [id]"

/-- The insert that a text is, with the select of the key after it. Semicolons in literals are no
part of the statement and do not end it. -/
def readInsert? (text : String) : Option Insert := do
  match (← pieces? text).splitOn (.char ';') with
  | [row, key] => if key = keyPieces then readRow (← tokens? row) else none
  | _ => none

theorem char_notMem_plain {c : Char} {text : String} (h : c ∉ text.toList) :
    Piece.char c ∉ plain text := by
  intro hmem
  obtain ⟨d, hd, heq⟩ := List.mem_map.1 hmem
  exact h (Piece.char.inj heq ▸ hd)

theorem semicolon_notMem_keyPieces : Piece.char ';' ∉ keyPieces :=
  char_notMem_plain (by decide)

theorem Value.token_ne_closing (value : Value) : value.token ≠ .closing := by
  cases value <;> nofun

theorem readBracketed_tokens {item : Reader α} {token : α → Token}
    (hitem : ∀ a ts, item (token a :: ts) = some (a, ts)) (hclosing : ∀ a, token a ≠ .closing)
    (items : List α) (ts : List Token) :
    readBracketed item (.opening ::
      ([Token.comma].intercalate (items.map fun a => [token a]) ++ .closing :: ts)) =
      some (items, ts) := by
  cases items with
  | nil => rfl
  | cons first rest =>
      have hrest := readFollowing_single hitem rest ts
      rw [List.map_cons, intercalate_eq_following, List.append_assoc, List.singleton_append,
        readBracketed]
      · rw [hitem]
        simp only [Option.bind_eq_bind, Option.bind_some]
        rw [hrest]
        rfl
      · intro others hothers
        exact hclosing first (List.cons.inj hothers).1

end Sql

namespace Literal

theorem sql_value (literal : Literal) : literal.value.sql = literal.prepared := by
  rw [prepared_eq_sql, value]
  cases hcontent : literal.content? with
  | some content =>
      rw [← String.toList_inj, sql_of_content? hcontent]
      exact String.toList_ofList
  | none =>
      show literal.bareValue.sql = literal.sql
      unfold bareValue
      split
      · rename_i hnull
        exact hnull.symm
      · rfl

/-- A value in a statement is the prepared form of a literal. If it is quoted, it stands for the
text, with a space for every double quote. -/
structure ReadAs (literal : Literal) (value : Sql.Value) : Prop where
  sql : value.sql = literal.prepared
  content : ∀ raw, literal.raw? = some raw → value = .text (raw.toList.map blanked)

theorem readAs_value (literal : Literal) : literal.ReadAs literal.value where
  sql := literal.sql_value
  content raw hraw := by
    rw [value, content?, hraw]
    rfl

/-- Outside of its quotes a value has no semicolon. -/
theorem semicolon_notMem_pieces (literal : Literal) : Piece.char ';' ∉ literal.pieces := by
  unfold pieces
  cases hcontent : literal.content? with
  | some content => simp
  | none =>
      apply Sql.char_notMem_plain
      intro hmem
      exact absurd (isRunChar_bare hcontent _ hmem) (by decide)

end Literal

namespace Values

def rowPieces (table : String) (values : Values) : List Piece :=
  plain "INSERT INTO " ++ plain table ++ plain " (" ++ plain values.columnsSql ++
    (plain ") VALUES (" ++
      (plain ", ").intercalate ((OrderedMap.values values).map Literal.pieces)) ++ plain ")"

def insertPieces (table : String) (values : Values) : List Piece :=
  values.rowPieces table ++ (plain ";" ++ Sql.keyPieces)

theorem toList_insertSql (table : String) (values : Values) :
    (values.insertSql table).toList = written (values.insertPieces table) := by
  have hliterals : values.literalsSql.toList =
      written ((plain ", ").intercalate ((OrderedMap.values values).map Literal.pieces)) := by
    rw [literalsSql, Text.toList_separated, Sql.written_intercalate, Sql.written_plain,
      List.map_map, List.map_map]
    congr 1
    exact List.map_congr_left fun value _ => value.toList_prepared
  have hkey : bracketed defaultPrimaryKey = "[id]" := by
    rw [← String.toList_inj, bracketed, String.toList_ofList]
    rfl
  unfold insertSql
  rw [hkey, insertPieces, rowPieces, Sql.keyPieces]
  simp [hliterals]

section

variable {table : String} {values : Values} (htable : isWord table.toList)
    (hkeys : ∀ key ∈ OrderedMap.keys values, isWord key.toList)

include hkeys

theorem mem_columnsSql : ∀ c ∈ values.columnsSql.toList, Sql.isInner c ∨ c = ',' ∨ c = ' ' := by
  rw [columnsSql, Text.toList_separated]
  refine Text.intercalate_closed (P := fun cs => ∀ c ∈ cs, Sql.isInner c ∨ c = ',' ∨ c = ' ')
    (by simp) ?_ (by simp) ?_
  · intro as bs ha hb c hc
    exact (List.mem_append.1 hc).elim (ha c) (hb c)
  · intro part hpart c hc
    obtain ⟨key, hkey, rfl⟩ := List.mem_map.1 hpart
    exact .inl (Sql.isInner_of_isWord (hkeys key hkey) c hc)

include htable

theorem fragment_rowPieces : Fragment (values.rowPieces table) := by
  have hcolumns : '\'' ∉ values.columnsSql.toList :=
    fun hmem => absurd (mem_columnsSql hkeys _ hmem) (by decide)
  have hname : Fragment (plain table) := .plain (Sql.quote_not_mem_of_isWord htable)
  -- The first value may be a literal, so the list goes together with the bracket before it.
  have hlist := Literal.fragment_list (by decide : '\'' ∉ ") VALUES (".toList) (by decide)
    (OrderedMap.values values)
  exact ((((Fragment.plain (by decide)).append hname).append (.plain (by decide))).append
    (.plain hcolumns) |>.append hlist).append (.plain (by decide))

theorem semicolon_notMem_rowPieces : Piece.char ';' ∉ values.rowPieces table := by
  have happend : ∀ {ps qs : List Piece}, Piece.char ';' ∉ ps → Piece.char ';' ∉ qs →
      Piece.char ';' ∉ ps ++ qs := by
    intro ps qs hp hq hmem
    exact (List.mem_append.1 hmem).elim hp hq
  have hname : ';' ∉ table.toList :=
    fun hmem => absurd (Sql.isInner_of_isWord htable _ hmem) (by decide)
  have hcolumns : ';' ∉ values.columnsSql.toList :=
    fun hmem => absurd (mem_columnsSql hkeys _ hmem) (by decide)
  have hliterals : Piece.char ';' ∉
      (plain ", ").intercalate ((OrderedMap.values values).map Literal.pieces) := by
    refine Text.intercalate_closed (P := fun ps => Piece.char ';' ∉ ps) (by simp) happend
      (Sql.char_notMem_plain (by decide)) ?_
    intro part hpart
    obtain ⟨value, _, rfl⟩ := List.mem_map.1 hpart
    exact value.semicolon_notMem_pieces
  refine happend (happend (happend (happend (happend ?_ ?_) ?_) ?_) (happend ?_ hliterals)) ?_
  · exact Sql.char_notMem_plain (by decide)
  · exact Sql.char_notMem_plain hname
  · exact Sql.char_notMem_plain (by decide)
  · exact Sql.char_notMem_plain hcolumns
  · exact Sql.char_notMem_plain (by decide)
  · exact Sql.char_notMem_plain (by decide)

theorem tokens?_rowPieces :
    tokens? (values.rowPieces table) = some (.word "INSERT" :: .word "INTO" :: .word table ::
      .opening ::
        ([Token.comma].intercalate ((OrderedMap.keys values).map fun key => [.word key]) ++
        .closing :: .word "VALUES" :: .opening ::
          ([Token.comma].intercalate ((OrderedMap.values values).map fun value =>
            [value.value.token]) ++ [.closing]))) := by
  have hinsert : tokens? (plain "INSERT INTO ") = some [.word "INSERT", .word "INTO"] := rfl
  have hopening : tokens? (plain " (") = some [.opening] := rfl
  have hvalues : tokens? (plain ") VALUES (") = some [.closing, .word "VALUES", .opening] := rfl
  have hclosing : tokens? (plain ")") = some [.closing] := rfl
  have hcolumns : tokens? (plain values.columnsSql) =
      some ([Token.comma].intercalate ((OrderedMap.keys values).map fun key => [.word key])) := by
    rw [columnsSql, Sql.plain_separated]
    exact Sql.tokens?_intercalate (by decide) rfl fun key hkey => Sql.tokens?_word (hkeys key hkey)
  have hliterals : tokens? ((plain ", ").intercalate
      ((OrderedMap.values values).map Literal.pieces)) =
      some ([Token.comma].intercalate
        ((OrderedMap.values values).map fun value => [value.value.token])) :=
    Sql.tokens?_intercalate (by decide) rfl fun value _ => value.tokens?_pieces
  -- Names and words are put together where the characters between them belong to neither.
  have hrest := Sql.tokens?_around (by decide) hcolumns hvalues
    (Sql.tokens?_after (by decide : ")".toList.head?.any Sql.isLoose) hliterals hclosing)
  have hnamed := Sql.tokens?_around (by decide) (Sql.tokens?_word htable) hopening hrest
  rw [rowPieces]
  simp only [List.append_assoc]
  have hrow := Sql.tokens?_before (by decide) hinsert hnamed
  exact hrow

theorem pieces?_insertSql :
    pieces? (values.insertSql table) = some (values.insertPieces table) := by
  have hkey : Fragment (plain ";" ++ Sql.keyPieces) :=
    (Fragment.plain (by decide)).append (.plain (by decide))
  have htext : values.insertSql table = String.ofList (written (values.insertPieces table)) := by
    rw [← toList_insertSql, String.ofList_toList]
  rw [htext]
  exact Sql.pieces?_ofList_written ((fragment_rowPieces htable hkeys).append hkey)

theorem count_semicolon : (values.insertPieces table).count (.char ';') = 1 := by
  have hrow := List.count_eq_zero.2 (semicolon_notMem_rowPieces htable hkeys)
  have hkey := List.count_eq_zero.2 Sql.semicolon_notMem_keyPieces
  show (values.rowPieces table ++ .char ';' :: Sql.keyPieces).count (.char ';') = 1
  rw [List.count_append, hrow, List.count_cons_self, hkey]

theorem splitOn_insertPieces :
    (values.insertPieces table).splitOn (.char ';') = [values.rowPieces table, Sql.keyPieces] := by
  have hparts : ∀ part ∈ [values.rowPieces table, Sql.keyPieces], Piece.char ';' ∉ part := by
    intro part hpart
    rcases List.mem_pair.1 hpart with rfl | rfl
    · exact semicolon_notMem_rowPieces htable hkeys
    · exact Sql.semicolon_notMem_keyPieces
  exact List.splitOn_intercalate _ hparts (List.cons_ne_nil _ _)

theorem readInsert?_insertSql :
    Sql.readInsert? (values.insertSql table) =
      some ⟨table, OrderedMap.keys values, (OrderedMap.values values).map Literal.value⟩ := by
  have hcolumns : ∀ ts, Sql.readBracketed Sql.readWord (.opening ::
      ([Token.comma].intercalate ((OrderedMap.keys values).map fun key => [.word key]) ++
        .closing :: ts)) = some (OrderedMap.keys values, ts) :=
    Sql.readBracketed_tokens (fun _ _ => rfl) nofun _
  have hvalues : Sql.readBracketed Sql.readValue (.opening ::
      ([Token.comma].intercalate ((OrderedMap.values values).map fun value =>
        [value.value.token]) ++ [.closing])) =
      some ((OrderedMap.values values).map Literal.value, []) := by
    have hread := Sql.readBracketed_tokens Sql.readValue_token Sql.Value.token_ne_closing
      ((OrderedMap.values values).map Literal.value) []
    rw [List.map_map] at hread
    exact hread
  -- The one semicolon parts the row from the select of the key, and then the two lists of the row
  -- are read one after the other.
  unfold Sql.readInsert?
  simp only [pieces?_insertSql htable hkeys, splitOn_insertPieces htable hkeys,
    tokens?_rowPieces htable hkeys, Option.bind_eq_bind, Option.bind_some, if_true]
  rw [Sql.readRow]
  simp only [hcolumns, hvalues, Option.bind_eq_bind, Option.bind_some]
  rfl

end

/-- The text depends on the names and on the prepared literals, and on nothing else of a map. -/
theorem insertSql_congr (table : String) {values others : Values}
    (h : OrderedMap.map Literal.prepared values = OrderedMap.map Literal.prepared others) :
    values.insertSql table = others.insertSql table := by
  have hentries := congrArg OrderedMap.entries h
  have hkeys : OrderedMap.keys values = OrderedMap.keys others := by
    have hfirst := congrArg (List.map Prod.fst) hentries
    simpa [OrderedMap.map, OrderedMap.keys, Function.comp_def] using hfirst
  have hliterals : (OrderedMap.values values).map Literal.prepared =
      (OrderedMap.values others).map Literal.prepared := by
    have hsecond := congrArg (List.map Prod.snd) hentries
    simpa [OrderedMap.map, OrderedMap.values, Function.comp_def] using hsecond
  unfold insertSql
  rw [columnsSql, literalsSql, hkeys, hliterals]
  rfl

theorem entries_map_prepared (values : Values) :
    (OrderedMap.map Literal.prepared values).entries =
      (OrderedMap.keys values).zip (((OrderedMap.values values).map Literal.value).map
        Sql.Value.sql) := by
  have hliterals : ((OrderedMap.values values).map Literal.value).map Sql.Value.sql =
      values.entries.map fun entry => entry.2.prepared := by
    rw [OrderedMap.values, List.map_map, List.map_map]
    exact List.map_congr_left fun entry _ => entry.2.sql_value
  rw [hliterals, OrderedMap.keys, List.zip_map']
  rfl

theorem entries_of_ofJson {members : List (String × Json)} (h : (members.map Prod.fst).Nodup) :
    ∃ made : Values, Values.ofJson (.object members) = .ok made ∧
      made.entries = members.map fun entry => (entry.1, .ofJson entry.2) := by
  refine ⟨_, rfl, OrderedMap.entries_ofList ?_⟩
  rw [List.map_map]
  exact h

end Values

open Values in
/-- An insert is read as an insert of the columns and the values of the map into the table, each in
its place, and with one semicolon that is not in a literal. So maps give the same insert if and
only if they have the same prepared literals under the same names in the same order, which is that
of the object from which a map is made. -/
theorem insert_carries_values {table : String} (htable : isWord table.toList) {values : Values}
    (hkeys : ∀ key ∈ OrderedMap.keys values, isWord key.toList) :
    (∃ pieces, pieces? (values.insertSql table) = some pieces ∧ pieces.count (.char ';') = 1) ∧
    (∃ insert, Sql.readInsert? (values.insertSql table) = some insert ∧ insert.table = table ∧
      insert.columns = OrderedMap.keys values ∧
      List.Forall₂ Literal.ReadAs (OrderedMap.values values) insert.values) ∧
    (∀ others : Values, (∀ key ∈ OrderedMap.keys others, isWord key.toList) →
      (values.insertSql table = others.insertSql table ↔
        OrderedMap.map Literal.prepared values = OrderedMap.map Literal.prepared others)) ∧
    ∀ members : List (String × Json), (members.map Prod.fst).Nodup →
      ∃ made : Values, Values.ofJson (.object members) = .ok made ∧
        made.entries = members.map fun entry => (entry.1, .ofJson entry.2) := by
  have hread := readInsert?_insertSql htable hkeys
  refine ⟨⟨_, pieces?_insertSql htable hkeys, count_semicolon htable hkeys⟩,
    ⟨_, hread, rfl, rfl, ?_⟩, fun others hothers => ⟨fun h => ?_, insertSql_congr table⟩,
    fun members => entries_of_ofJson⟩
  · rw [List.forall₂_map_right_iff, List.forall₂_same]
    exact fun value _ => value.readAs_value
  · -- Both texts are one text, and it is read in one way only.
    rw [h, readInsert?_insertSql htable hothers, Option.some.injEq, Sql.Insert.mk.injEq] at hread
    ext1
    rw [entries_map_prepared, entries_map_prepared, hread.2.1, hread.2.2]

/-- What looks like the end of the list or of the statement stays in its literal, and two values are
read for the two columns. -/
theorem insert_carries_values_quoted :
    ∃ insert, Sql.readInsert? (Values.insertSql "VALUES"
        (.ofList [("SELECT", .text "it's \"1\", 2); --"), ("note", .null)])) = some insert ∧
      insert.columns = ["SELECT", "note"] ∧
      ∃ value, insert.values = [.text "it's  1 , 2); --".toList, value] ∧ value.sql = "NULL" := by
  obtain ⟨-, ⟨insert, hread, -, hcolumns, hvalues⟩, -⟩ :=
    @insert_carries_values "VALUES" (by decide)
      (.ofList [("SELECT", .text "it's \"1\", 2); --"), ("note", .null)]) (by decide)
  obtain ⟨first, rest, hfirst, hrest, hcons⟩ := List.forall₂_cons_left_iff.1 hvalues
  obtain ⟨second, others, hsecond, hnil, rfl⟩ := List.forall₂_cons_left_iff.1 hrest
  rw [List.forall₂_nil_left_iff.1 hnil, hfirst.content _ rfl] at hcons
  exact ⟨insert, hread, hcolumns, second, hcons, hsecond.sql⟩

end CriteriaSql
