import CriteriaSql.Proofs.OrderedMap
import CriteriaSql.Schema.Describe
import Mathlib.Data.List.Forall2

/-!
The columns that rows describe. A name has the place of the first row that gives it, and the column
that the last such row defines. Blanks at the end of a name or a type make no difference.
-/

namespace CriteriaSql

/-! What a single row says. -/

namespace Row

/-- The name that a row gives its column. -/
def columnName? (row : Row) : Option String :=
  match row.get? "ColumnName" with
  | some (.string name) => some (Text.trimEnd name)
  | _ => none

/-- A flag is set by true, or by an integer that has a place in 64 bits and is not zero. -/
def Sets (row : Row) (key : String) : Prop :=
  row.get? key = some (.bool true) ∨
    ∃ n, row.get? key = some (.number (.integer n)) ∧ n ≠ 0 ∧ leastInt64 ≤ n ∧ n ≤ greatestInt64

/-- The column is what the row makes of it, field by field. -/
structure Defines (row : Row) (column : Column) : Prop where
  declaredType : ∀ type, column.declaredType = some type ↔
    ∃ s, row.get? "TypeName" = some (.string s) ∧ type = Text.trimEnd s
  primaryKey : column.primaryKey ↔ row.Sets "PrimaryKey"
  unique : column.unique ↔ row.Sets "Unique"
  autoIncrement : column.autoIncrement ↔ row.Sets "AutoIncrement"
  indexed : column.indexed ↔ row.Sets "Indexed"
  nullable : column.nullable ↔ row.Sets "Nullable"

variable {row other : Row}

theorem flagOf_iff (row : Row) (key : String) : flagOf row key = true ↔ row.Sets key := by
  unfold flagOf Sets
  split <;> rename_i h
  · simp [h]
  · simp [h, fitsInt64]
  · rename_i hbool
    constructor
    · rintro ⟨⟩
    · rintro (htrue | ⟨n, hn, -⟩)
      · exact absurd htrue (hbool true)
      · exact absurd hn (h n)

theorem defines_ofDescription (row : Row) : row.Defines (.ofDescription row) where
  declaredType type := by
    show ((row.get? "TypeName").bind Json.string?).map Text.trimEnd = some type ↔ _
    cases row.get? "TypeName" with
    | none => simp
    | some value => cases value <;> simp [Json.string?, eq_comm]
  primaryKey := flagOf_iff row _
  unique := flagOf_iff row _
  autoIncrement := flagOf_iff row _
  indexed := flagOf_iff row _
  nullable := flagOf_iff row _

/-- A row defines one column. -/
theorem Defines.unique_column {a b : Column} (ha : row.Defines a) (hb : row.Defines b) : a = b := by
  have htype : a.declaredType = b.declaredType :=
    Option.ext fun type => (ha.declaredType type).trans (hb.declaredType type).symm
  have hprimaryKey := Bool.eq_iff_iff.2 (ha.primaryKey.trans hb.primaryKey.symm)
  have hunique := Bool.eq_iff_iff.2 (ha.unique.trans hb.unique.symm)
  have hautoIncrement := Bool.eq_iff_iff.2 (ha.autoIncrement.trans hb.autoIncrement.symm)
  have hindexed := Bool.eq_iff_iff.2 (ha.indexed.trans hb.indexed.symm)
  have hnullable := Bool.eq_iff_iff.2 (ha.nullable.trans hb.nullable.symm)
  obtain ⟨_, _, _, _, _, _⟩ := a
  obtain ⟨_, _, _, _, _, _⟩ := b
  simp_all

theorem defines_iff {column : Column} : row.Defines column ↔ column = .ofDescription row := by
  constructor
  · intro h
    exact h.unique_column (defines_ofDescription row)
  · rintro rfl
    exact defines_ofDescription row

theorem columnName?_eq (row : Row) :
    row.columnName? = ((row.get? "ColumnName").bind Json.string?).map Text.trimEnd := by
  unfold columnName?
  cases row.get? "ColumnName" with
  | none => rfl
  | some value => cases value <;> rfl

theorem describedColumn?_eq (row : Row) :
    describedColumn? row = row.columnName?.map fun name => (name, .ofDescription row) := by
  unfold describedColumn? columnName?
  cases row.get? "ColumnName" with
  | none => rfl
  | some value => cases value <;> rfl

/-! Rows that are padded. -/

/-- Blanks may be appended to the name and the type of a column. -/
inductive Pads : String × Json → String × Json → Prop
  | same (entry : String × Json) : Pads entry entry
  | blanks {key : String} (hkey : key ∈ ["ColumnName", "TypeName"]) (s : String)
      (blanks : List Char) (hblanks : ∀ c ∈ blanks, Text.isBlank c) :
      Pads (key, .string s) (key, .string (s ++ String.ofList blanks))

def Padded (row other : Row) : Prop :=
  List.Forall₂ Pads row.entries other.entries

theorem Padded.refl (row : Row) : row.Padded row :=
  List.forall₂_same.2 fun entry _ => .same entry

/-- What is found is what was there, or the same text with blanks. -/
theorem lookup_of_pads {entries others : List (String × Json)}
    (h : List.Forall₂ Pads entries others) (key : String) :
    others.lookup key = entries.lookup key ∨ key ∈ ["ColumnName", "TypeName"] ∧
      ∃ s t, entries.lookup key = some (.string s) ∧ others.lookup key = some (.string t) ∧
        Text.trimEnd t = Text.trimEnd s := by
  -- Padding leaves the keys alone, so that both are found in the same place.
  induction h with
  | nil => exact .inl rfl
  | @cons entry _ _ _ hentry _ ih =>
      rw [OrderedMap.lookup_cons_eq_ite, OrderedMap.lookup_cons_eq_ite]
      cases hentry with
      | same =>
          by_cases hkey : key = entry.1
          · rw [if_pos hkey, if_pos hkey]
            exact .inl rfl
          · rw [if_neg hkey, if_neg hkey]
            exact ih
      | @blanks name hname s cs hblanks =>
          by_cases hkey : key = name
          · rw [if_pos hkey, if_pos hkey]
            exact .inr ⟨hkey ▸ hname, s, _, rfl, rfl, Text.trimEnd_append_blanks s hblanks⟩
          · rw [if_neg hkey, if_neg hkey]
            exact ih

namespace Padded

variable (h : row.Padded other)

include h

theorem flagOf_eq (key : String) (hkey : key ∉ ["ColumnName", "TypeName"]) :
    flagOf other key = flagOf row key := by
  have hsame : other.get? key = row.get? key :=
    (lookup_of_pads h key).resolve_right fun hpadded => hkey hpadded.1
  rw [flagOf, flagOf, hsame]

theorem trimmed_eq (key : String) :
    ((other.get? key).bind Json.string?).map Text.trimEnd =
      ((row.get? key).bind Json.string?).map Text.trimEnd := by
  unfold OrderedMap.get?
  rcases lookup_of_pads h key with hsame | ⟨-, s, t, hs, ht, htrim⟩
  · rw [hsame]
  · rw [hs, ht]
    exact congrArg some htrim

/-- Only a name and a type can be padded, and both are trimmed. -/
theorem describedColumn?_eq : describedColumn? other = describedColumn? row := by
  have hcolumn : Column.ofDescription other = .ofDescription row := by
    unfold Column.ofDescription
    rw [h.trimmed_eq, h.flagOf_eq "PrimaryKey" (by decide), h.flagOf_eq "Unique" (by decide),
      h.flagOf_eq "AutoIncrement" (by decide), h.flagOf_eq "Indexed" (by decide),
      h.flagOf_eq "Nullable" (by decide)]
  rw [Row.describedColumn?_eq, Row.describedColumn?_eq, columnName?_eq, columnName?_eq,
    h.trimmed_eq, hcolumn]

end Padded

end Row

/-! What rows say together. -/

/-- The row gives the name, and none after it does. -/
structure IsLast (rows : List Row) (name : String) (row : Row) : Prop where
  columnName : row.columnName? = some name
  split : ∃ before after, rows = before ++ row :: after ∧
    ∀ later ∈ after, later.columnName? ≠ some name

/-- What rows in their order have to be read as. -/
structure Describes (rows : List Row) (definition : Definition) : Prop where
  names : OrderedMap.keys definition = (rows.filterMap Row.columnName?).eraseDups
  columns : ∀ name column, definition.get? name = some column ↔
    ∃ row, IsLast rows name row ∧ row.Defines column

namespace Definition

theorem map_fst_described (rows : List Row) :
    (rows.filterMap describedColumn?).map Prod.fst = rows.filterMap Row.columnName? := by
  rw [List.map_filterMap]
  congr 1
  funext row
  rw [Row.describedColumn?_eq]
  cases row.columnName? <;> rfl

theorem lookup_described (rows : List Row) (name : String) :
    (rows.filterMap describedColumn?).lookup name =
      (rows.find? fun row => row.columnName? = some name).map Column.ofDescription := by
  induction rows with
  | nil => rfl
  | cons row rest ih =>
      cases hname : row.columnName? with
      | none =>
          rw [List.filterMap_cons_none (by rw [Row.describedColumn?_eq, hname]; rfl), ih,
            List.find?_cons_of_neg (by simp [hname])]
      | some other =>
          rw [List.filterMap_cons_some (by rw [Row.describedColumn?_eq, hname]; rfl),
            OrderedMap.lookup_cons_eq_ite, ih]
          by_cases h : name = other
          · rw [if_pos h, List.find?_cons_of_pos (by simp [hname, h])]
            rfl
          · rw [if_neg h, List.find?_cons_of_neg (by simpa [hname] using Ne.symm h)]

theorem find?_reverse_eq_some_iff {rows : List Row} {name : String} {row : Row} :
    rows.reverse.find? (fun row => row.columnName? = some name) = some row ↔
      IsLast rows name row := by
  rw [List.find?_eq_some_iff_append]
  constructor
  · rintro ⟨hname, after, before, hrows, hafter⟩
    refine ⟨by simpa using hname, before.reverse, after.reverse, ?_, ?_⟩
    · rw [← List.reverse_reverse rows, hrows]
      simp
    · intro later hlater
      simpa using hafter later (List.mem_reverse.1 hlater)
  · rintro ⟨hname, before, after, rfl, hafter⟩
    refine ⟨by simpa using hname, after.reverse, before.reverse, by simp, ?_⟩
    intro later hlater
    simpa using hafter later (List.mem_reverse.1 hlater)

theorem describes_ofDescription (rows : List Row) : Describes rows (ofDescription rows) where
  names := by
    rw [ofDescription, OrderedMap.keys_ofList, map_fst_described]
  columns name column := by
    rw [ofDescription, OrderedMap.get?_ofList, ← List.filterMap_reverse, lookup_described,
      Option.map_eq_some_iff]
    simp only [find?_reverse_eq_some_iff, Row.defines_iff, eq_comm (a := column)]

theorem ofDescription_padded {rows others : List Row} (h : List.Forall₂ Row.Padded rows others) :
    ofDescription others = ofDescription rows := by
  have hcolumns : others.filterMap describedColumn? = rows.filterMap describedColumn? := by
    induction h with
    | nil => rfl
    | cons hrow _ ih => rw [List.filterMap_cons, List.filterMap_cons, hrow.describedColumn?_eq, ih]
  rw [ofDescription, hcolumns, ofDescription]

theorem ofDescription_append (rows more : List Row) :
    ofDescription (rows ++ more) =
      (ofDescription rows).insertAll (ofDescription more).entries := by
  unfold ofDescription
  rw [OrderedMap.insertAll_ofList, List.filterMap_append, OrderedMap.ofList_eq_insertAll,
    OrderedMap.insertAll_append]
  rfl

end Definition

open Definition in
/-- Rows describe the columns they name, each by the last row that names it, in the order in which
the names first come. Blanks that pad a name or a type change nothing, and rows that come later are
read like entries that are inserted: a name that is there already keeps its place. -/
theorem rows_describe_columns (rows : List Row) :
    Describes rows (ofDescription rows) ∧
    (∀ others, List.Forall₂ Row.Padded rows others → ofDescription others = ofDescription rows) ∧
    ∀ more, ofDescription (rows ++ more) =
        (ofDescription rows).insertAll (ofDescription more).entries ∧
      OrderedMap.keys (ofDescription (rows ++ more)) = OrderedMap.keys (ofDescription rows) ++
        (OrderedMap.keys (ofDescription more)).filter
          (· ∉ OrderedMap.keys (ofDescription rows)) := by
  refine ⟨describes_ofDescription rows, fun others => ofDescription_padded, fun more => ⟨?_, ?_⟩⟩
  · exact ofDescription_append rows more
  · rw [ofDescription_append, OrderedMap.keys_insertAll_entries]

/-- The first row and the last name one column, though with different blanks, and the type of the
first is padded. -/
theorem rows_describe_columns_padded :
    ∃ definition, Definition.ofDescription
        [⟨[("ColumnName", .string "ID  "), ("TypeName", .string "INTEGER")], by simp⟩,
          ⟨[("ColumnName", .string "NAME")], by simp⟩,
          ⟨[("ColumnName", .string "ID"), ("PrimaryKey", .number (.integer 1))], by simp⟩] =
        definition ∧
      Definition.ofDescription
        [⟨[("ColumnName", .string "ID  "), ("TypeName", .string "INTEGER\t")], by simp⟩,
          ⟨[("ColumnName", .string "NAME")], by simp⟩,
          ⟨[("ColumnName", .string "ID"), ("PrimaryKey", .number (.integer 1))], by simp⟩] =
        definition ∧
      OrderedMap.keys definition = ["ID", "NAME"] := by
  refine ⟨_, rfl, (rows_describe_columns _).2.1 _ (.cons ?_ ?_), rfl⟩
  · have hblank : ∀ c ∈ ['\t'], Text.isBlank c := List.forall_mem_singleton.2 rfl
    exact .cons (.same _) (.cons (.blanks (by decide) "INTEGER" ['\t'] hblank) .nil)
  · exact List.forall₂_same.2 fun row _ => .refl row

end CriteriaSql
