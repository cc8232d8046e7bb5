import CriteriaSql.Proofs.Sql.Token
import CriteriaSql.Proofs.Text.Pieces
import CriteriaSql.Proofs.Text.Separated
import CriteriaSql.Statement.Basic

/-!
What the column list of a table says: the names in order, and a kind for each. Being a primary key
hides everything else of a column, but whether it is an integer.
-/

namespace CriteriaSql

open Sql (isWord)

theorem ColumnType.sql_injective : Function.Injective ColumnType.sql := by
  intro a b h
  cases a <;> cases b <;> simp [ColumnType.sql] at h ⊢

inductive ColumnKind where
  | integerKey
  | key
  | unique (type : ColumnType)
  | plain (type : ColumnType)
  deriving DecidableEq

/-- A primary key is one even if it is declared to be unique too. -/
def Column.kind (column : Column) : ColumnKind :=
  let type := column.type.value
  if column.primaryKey then if type = .int then .integerKey else .key
  else if column.unique then .unique type
  else .plain type

/-- The declared type is one that the dialect has a type for, in whatever mixture of cases. -/
def Column.isRegistered (column : Column) : Bool :=
  ((column.declaredType.map Text.lower).bind ColumnType.registered?).isSome

namespace ColumnKind

/-- The words after the name. A blank comes before each of them, also before an empty one. -/
def words : ColumnKind → List String
  | integerKey => ["INT", "IDENTITY(1,1)", "PRIMARY", "KEY"]
  | key => ["VARCHAR(255)", "NOT", "NULL", "PRIMARY", "KEY"]
  | unique type => [type.sql, "UNIQUE"]
  | plain type => [type.sql, ""]

def sql (name : String) (kind : ColumnKind) : String :=
  Text.separated " " (name :: kind.words)

theorem words_ne_nil (kind : ColumnKind) : kind.words ≠ [] := by
  cases kind <;> simp [words]

theorem words_injective : Function.Injective words := by
  intro a b h
  cases a <;> cases b <;> simp [words] at h ⊢
  · exact ColumnType.sql_injective h
  · exact ColumnType.sql_injective h

theorem blank_notMem_words (kind : ColumnKind) : ∀ word ∈ kind.words, ' ' ∉ word.toList := by
  rcases kind with _ | _ | type | type
  · decide
  · decide
  · cases type <;> decide
  · cases type <;> decide

/-- The one comma that there may be has no blank after it. -/
theorem not_infix_sql (kind : ColumnKind) {name : String} (hname : ',' ∉ name.toList) :
    ¬ [',', ' '] <:+: (kind.sql name).toList := by
  have hwords : ¬ [',', ' '] <:+:
      " ".toList ++ " ".toList.intercalate (kind.words.map String.toList) := by
    rcases kind with _ | _ | type | type
    · decide +kernel
    · decide +kernel
    · cases type <;> decide +kernel
    · cases type <;> decide +kernel
  rw [sql, Text.toList_separated, List.map_cons,
    List.intercalate_cons_of_ne_nil (by simpa using kind.words_ne_nil), List.append_assoc,
    Text.infix_append_iff hname]
  exact hwords

theorem sql_ne_empty (kind : ColumnKind) (name : String) : (kind.sql name).toList ≠ [] := by
  rw [sql, Text.toList_separated, List.map_cons,
    List.intercalate_cons_of_ne_nil (by simpa using kind.words_ne_nil)]
  simp

theorem splitOn_sql (kind : ColumnKind) {name : String} (hname : ' ' ∉ name.toList) :
    (kind.sql name).toList.splitOn ' ' = (name :: kind.words).map String.toList := by
  rw [sql, Text.toList_separated]
  apply List.splitOn_intercalate
  · rw [List.forall_mem_map, List.forall_mem_cons]
    exact ⟨hname, kind.blank_notMem_words⟩
  · simp

end ColumnKind

theorem Column.value_sql (name : String) (column : Column) :
    (column.sql name).value = column.kind.sql name := by
  show column.sqlOf name column.type.value = _
  rw [← String.toList_inj, ColumnKind.sql, Text.toList_separated]
  unfold sqlOf kind
  generalize column.type.value = type
  by_cases hkey : column.primaryKey
  · by_cases hint : type = .int
    · simp [hkey, hint, ColumnKind.words, ColumnType.sql]
    · simp [hkey, hint, ColumnKind.words]
  · by_cases hunique : column.unique
    · simp [hkey, hunique, ColumnKind.words]
    · simp [hkey, hunique, ColumnKind.words]

theorem Column.events_sql (name : String) (column : Column) :
    (column.sql name).events = if column.isRegistered then []
      else [.typeUnregistered (column.declaredType.map Text.lower)] := by
  rw [sql, Logged.events_bind, Logged.events_pure, List.append_nil]
  unfold type ColumnType.ofDeclared isRegistered
  dsimp only
  split <;> rename_i h
  · simp [h]
  · simp [h]

namespace Definition

variable (definition : Definition)

/-- The texts of the columns, in their order. -/
def parts : List String :=
  definition.entries.map fun entry => (entry.2.sql entry.1).value

theorem value_sql : definition.sql.value = Text.separated ", " definition.parts := by
  rw [sql, Text.separatedM, Logged.value_bind, Logged.value_pure, Logged.value_mapM, parts]

theorem events_sql :
    definition.sql.events =
      ((OrderedMap.values definition).filter fun column => !column.isRegistered).map fun column =>
        .typeUnregistered (column.declaredType.map Text.lower) := by
  rw [sql, Text.separatedM, Logged.events_bind, Logged.events_pure, List.append_nil,
    Logged.events_mapM, OrderedMap.values]
  induction definition.entries with
  | nil => rfl
  | cons entry rest ih =>
      rw [List.flatMap_cons, ih, Column.events_sql, List.map_cons]
      cases h : entry.2.isRegistered with
      | true => rw [List.filter_cons_of_neg (by simp [h])]; rfl
      | false => rw [List.filter_cons_of_pos (by simp [h])]; rfl

/-- The names in their order, and the kind of each. -/
def kinds : OrderedMap ColumnKind :=
  OrderedMap.map Column.kind definition

theorem parts_eq :
    definition.parts = definition.kinds.entries.map fun entry => entry.2.sql entry.1 := by
  rw [parts]
  show _ = (definition.entries.map _).map _
  rw [List.map_map]
  exact List.map_congr_left fun entry _ => entry.2.value_sql entry.1

section

variable {definition} (hnames : ∀ name ∈ OrderedMap.keys definition, isWord name.toList)

include hnames

theorem notMem_name {c : Char} (hc : Sql.isInner c = false) :
    ∀ entry ∈ definition.kinds.entries, c ∉ entry.1.toList := by
  intro entry hentry hmem
  obtain ⟨column, hcolumn, rfl⟩ := List.mem_map.1 hentry
  have hinner := Sql.isInner_of_isWord (hnames _ (List.mem_map_of_mem hcolumn)) c hmem
  rw [hc] at hinner
  cases hinner

theorem cutAt_sql (hne : definition.entries ≠ []) :
    Text.cutAt ", ".toList definition.sql.value.toList = definition.parts.map String.toList := by
  have hseparator : ", ".toList = [',', ' '] := by decide
  rw [value_sql, Text.toList_separated, hseparator]
  apply Text.cutAt_intercalate
  · decide
  · rw [parts_eq, List.map_map, List.forall_mem_map]
    intro entry hentry
    have hcomma : ',' ∉ entry.1.toList := notMem_name hnames (by decide) entry hentry
    exact entry.2.not_infix_sql hcomma
  · simpa [parts] using hne

/-- No column list is read in two ways: a blank ends the name, and the words after it tell the
kind. -/
theorem kinds_eq_of_parts {others : Definition}
    (hothers : ∀ name ∈ OrderedMap.keys others, isWord name.toList)
    (h : definition.parts = others.parts) : definition.kinds = others.kinds := by
  have hsplit : ∀ {a : Definition}, (∀ name ∈ OrderedMap.keys a, isWord name.toList) →
      a.parts.map (fun part => part.toList.splitOn ' ') =
        a.kinds.entries.map fun entry => (entry.1 :: entry.2.words).map String.toList := by
    intro a ha
    rw [parts_eq, List.map_map]
    apply List.map_congr_left
    intro entry hentry
    have hblank : ' ' ∉ entry.1.toList := notMem_name ha (by decide) entry hentry
    rw [Function.comp_apply, entry.2.splitOn_sql hblank]
  have hinjective : Function.Injective fun entry : String × ColumnKind =>
      (entry.1 :: entry.2.words).map String.toList := by
    rintro ⟨name, kind⟩ ⟨other, otherKind⟩ hentry
    have hwords : name :: kind.words = other :: otherKind.words :=
      (List.map_inj_right fun _ _ => String.toList_injective).1 hentry
    rw [(List.cons.inj hwords).1, ColumnKind.words_injective (List.cons.inj hwords).2]
  ext1
  apply List.map_injective_iff.2 hinjective
  rw [← hsplit hnames, h, hsplit hothers]

theorem value_sql_eq_empty_iff : definition.sql.value = "" ↔ definition.entries = [] := by
  constructor
  · intro h
    by_contra hne
    have hparts := cutAt_sql hnames hne
    rw [h, String.toList_empty, Text.cutAt] at hparts
    have hmem : [] ∈ definition.parts.map String.toList := hparts ▸ List.mem_singleton_self []
    rw [parts_eq, List.map_map, List.mem_map] at hmem
    obtain ⟨entry, -, hentry⟩ := hmem
    exact entry.2.sql_ne_empty entry.1 hentry
  · intro h
    rw [value_sql, parts, h]
    rfl

theorem value_sql_eq_iff {others : Definition}
    (hothers : ∀ name ∈ OrderedMap.keys others, isWord name.toList) :
    definition.sql.value = others.sql.value ↔ definition.kinds = others.kinds := by
  constructor
  · intro h
    have hempty : definition.entries = [] ↔ others.entries = [] := by
      rw [← value_sql_eq_empty_iff hnames, h, value_sql_eq_empty_iff hothers]
    apply kinds_eq_of_parts hnames hothers
    -- Even the empty text is cut into one part, so without columns there is nothing to cut.
    by_cases hne : definition.entries = []
    · rw [parts, parts, hne, hempty.1 hne]
    · apply (List.map_inj_right fun _ _ => String.toList_injective).1
      rw [← cutAt_sql hnames hne, h, cutAt_sql hothers (mt hempty.2 hne)]
  · intro h
    rw [value_sql, value_sql, parts_eq, parts_eq, h]

end

end Definition

open Definition in
/-- The column list of a table determines the names in order and the kind of each, and nothing else.
Cut at every comma that a blank follows, it gives the texts of the columns, which are also the texts
by which columns are added. What is reported are the types that are not registered, column by
column. -/
theorem column_list_determined (definition : Definition) :
    ((∀ name ∈ OrderedMap.keys definition, isWord name.toList) →
      (∀ others : Definition, (∀ name ∈ OrderedMap.keys others, isWord name.toList) →
        (definition.sql.value = others.sql.value ↔
          OrderedMap.map Column.kind definition = OrderedMap.map Column.kind others)) ∧
      (definition.entries ≠ [] →
        Text.cutAt ", ".toList definition.sql.value.toList =
          definition.parts.map String.toList)) ∧
    (∀ table, definition.entries.map (fun entry => (addColumnSql table entry.1 entry.2).value) =
      definition.parts.map fun part => "ALTER TABLE " ++ table ++ " ADD " ++ part) ∧
    definition.sql.events =
      ((OrderedMap.values definition).filter fun column => !column.isRegistered).map fun column =>
        .typeUnregistered (column.declaredType.map Text.lower) := by
  refine ⟨fun hnames => ⟨fun others => value_sql_eq_iff hnames, cutAt_sql hnames⟩,
    fun table => ?_, events_sql definition⟩
  rw [parts, List.map_map]
  rfl

/-- An integer key may be declared to be unique, and what is an array may be declared as JSON. -/
theorem column_list_determined_alike :
    ∃ text, (Definition.sql
        ⟨[("id", { Column.plain (some "int") with primaryKey := true, unique := true }),
          ("note", .plain (some "JSON"))], by simp⟩).value = text ∧
      (Definition.sql
        ⟨[("id", { Column.plain (some "Integer") with primaryKey := true }),
          ("note", .plain (some "array"))], by simp⟩).value = text ∧
      Text.cutAt ", ".toList text.toList =
        ["id INT IDENTITY(1,1) PRIMARY KEY", "note NTEXT "].map String.toList := by
  obtain ⟨hsame, hcut⟩ := (column_list_determined
    ⟨[("id", { Column.plain (some "int") with primaryKey := true, unique := true }),
      ("note", .plain (some "JSON"))], by simp⟩).1 (by decide)
  refine ⟨_, rfl, ((hsame _ (by decide)).2 ?_).symm, (hcut (by simp)).trans ?_⟩
  · ext1
    decide
  · decide

end CriteriaSql
