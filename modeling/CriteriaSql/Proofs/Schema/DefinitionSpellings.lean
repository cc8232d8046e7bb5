import CriteriaSql.Proofs.Schema.ColumnText
import CriteriaSql.Proofs.Schema.Spellings

/-!
The spellings of columns and collections: what may be written in its place, and what is an error
wherever it stands.
-/

namespace CriteriaSql

open Document

namespace Column

def defaults : Defaults :=
  [(["type", "column_type"], .null), (["primary_key", "primaryKey"], .flag false),
    (["unique"], .flag false), (["auto_increment", "autoIncrement"], .flag false),
    (["indexed"], .flag false), (["nullable"], .flag false)]

theorem defaults_apart : Apart defaults := by
  unfold Apart
  decide

/-- A column of the values of all its fields. -/
def ofFilled : List Document → Option Column
  | [type, primaryKey, unique, autoIncrement, indexed, nullable] => do
      return {
        declaredType := ← optionalText? type
        primaryKey := ← flag? primaryKey
        unique := ← flag? unique
        autoIncrement := ← flag? autoIncrement
        indexed := ← flag? indexed
        nullable := ← flag? nullable }
  | _ => none

theorem ofDocument?_record (members : List (String × Document)) :
    ofDocument? (.record members) = (filled? defaults members).bind ofFilled := by
  have htype : optionalText? .null = some none := rfl
  have hflag : flag? (.flag false) = some false := rfl
  -- Every field is looked up before the first one is read.
  rw [ofDocument?, fields?, fields, filled?, defaults]
  simp only [List.mapM_cons, List.mapM_nil, ← map_field?_getD, orDefault_eq htype,
    orDefault_eq hflag]
  cases field? ["type", "column_type"] members with
  | none => rfl
  | some type =>
    cases field? ["primary_key", "primaryKey"] members with
    | none => rfl
    | some primaryKey =>
      cases field? ["unique"] members with
      | none => rfl
      | some unique =>
        cases field? ["auto_increment", "autoIncrement"] members with
        | none => rfl
        | some autoIncrement =>
          cases field? ["indexed"] members with
          | none => rfl
          | some indexed =>
            cases field? ["nullable"] members with
            | none => rfl
            | some nullable => rfl

/-- Nothing but a record gives a field by name. -/
def GivesOnce : Document → Prop
  | .record members => Document.GivesOnce defaults members
  | _ => True

inductive Respells : Document → Document → Prop
  | members {as bs} (h : Document.Respells defaults as bs) : Respells (.record as) (.record bs)

theorem Respells.givesOnce {a b : Document} (h : Respells a b) (honce : GivesOnce a) :
    GivesOnce b := by
  cases h with
  | members h => exact h.givesOnce defaults_apart honce

theorem Respells.ofDocument?_eq {a b : Document} (h : Respells a b) (honce : GivesOnce a) :
    ofDocument? b = ofDocument? a := by
  cases h with
  | members h =>
      rw [ofDocument?_record, ofDocument?_record, h.filled?_eq defaults_apart honce]

theorem ofDocument?_eq_none {document : Document} (h : ¬ GivesOnce document) :
    ofDocument? document = none := by
  cases document with
  | record members =>
      rw [ofDocument?_record, filled?_eq_none h]
      rfl
  | _ => exact absurd trivial h

end Column

namespace Definition

/-- No column of a definition gives a field twice. -/
def GivesOnce : Document → Prop
  | .record columns => ∀ entry ∈ columns, Column.GivesOnce entry.2
  | _ => True

def readColumn (member : String × Document) : Option (String × Column) := do
  return (member.1, ← Column.ofDocument? member.2)

theorem ofDocument?_record (columns : List (String × Document)) :
    ofDocument? (.record columns) = (columns.mapM readColumn).map .ofList := by
  show (columns.mapM readColumn).bind _ = _
  rw [Option.map_eq_bind]
  rfl

theorem ofDocument?_eq_none {document : Document} (h : ¬ GivesOnce document) :
    ofDocument? document = none := by
  cases document with
  | record columns =>
      obtain ⟨entry, hentry, htwice⟩ : ∃ entry ∈ columns, ¬ Column.GivesOnce entry.2 := by
        simpa only [GivesOnce, not_forall, exists_prop] using h
      have hread : readColumn entry = none := by
        rw [readColumn, Column.ofDocument?_eq_none htwice]
        rfl
      rw [ofDocument?_record, mapM_eq_none_of_mem hentry hread]
      rfl
  | _ => exact absurd trivial h

theorem givesOnce_column_iff {name : String} {column : Document}
    {front back : List (String × Document)} :
    GivesOnce (.record (front ++ (name, column) :: back)) ↔
      (∀ entry ∈ front, Column.GivesOnce entry.2) ∧ Column.GivesOnce column ∧
        ∀ entry ∈ back, Column.GivesOnce entry.2 := by
  show (∀ entry ∈ front ++ (name, column) :: back, Column.GivesOnce entry.2) ↔ _
  rw [List.forall_mem_append, List.forall_mem_cons]

theorem ofDocument?_column {a b : Document} (h : Column.ofDocument? b = Column.ofDocument? a)
    (name : String) (front back : List (String × Document)) :
    ofDocument? (.record (front ++ (name, b) :: back)) =
      ofDocument? (.record (front ++ (name, a) :: back)) := by
  have hread : readColumn (name, b) = readColumn (name, a) := by
    rw [readColumn, readColumn, h]
  rw [ofDocument?_record, ofDocument?_record, List.mapM_append, List.mapM_append,
    List.mapM_cons, List.mapM_cons, hread]

theorem keys_mapM_readColumn {columns : List (String × Document)}
    {entries : List (String × Column)} (h : columns.mapM readColumn = some entries) :
    entries.map Prod.fst = columns.map Prod.fst := by
  induction columns generalizing entries with
  | nil =>
      obtain rfl := Option.some.inj h
      rfl
  | cons column rest ih =>
      rw [List.mapM_cons] at h
      obtain ⟨first, hfirst, h⟩ := Option.bind_eq_some_iff.1 h
      obtain ⟨others, hothers, h⟩ := Option.bind_eq_some_iff.1 h
      obtain ⟨read, -, hname⟩ := Option.bind_eq_some_iff.1 hfirst
      obtain rfl := Option.some.inj h
      obtain rfl := Option.some.inj hname
      rw [List.map_cons, List.map_cons, ih hothers]

/-- Columns in another order, each under a name of its own, give their entries in another order. -/
theorem rel_ofDocument?_of_perm {as bs : List (String × Document)} (h : as.Perm bs)
    (hnames : (as.map Prod.fst).Nodup) :
    Option.Rel (fun definition other => definition.entries.Perm other.entries)
      (ofDocument? (.record as)) (ofDocument? (.record bs)) := by
  have hnames' : (bs.map Prod.fst).Nodup := (h.map Prod.fst).nodup_iff.1 hnames
  have hrel := rel_mapM_of_perm (f := readColumn) h
  rw [ofDocument?_record, ofDocument?_record]
  generalize has : as.mapM readColumn = entries? at hrel ⊢
  generalize hbs : bs.mapM readColumn = others? at hrel ⊢
  cases hrel with
  | none => exact .none
  | @some entries others hperm =>
      apply Option.Rel.some
      -- No name is given again, so each entry stays where its column is read.
      have hentries : (entries.map Prod.fst).Nodup := by rwa [keys_mapM_readColumn has]
      have hothers : (others.map Prod.fst).Nodup := by rwa [keys_mapM_readColumn hbs]
      rw [OrderedMap.entries_ofList hentries, OrderedMap.entries_ofList hothers]
      exact hperm

end Definition

namespace Collection

def attributesField : List String × Document :=
  (["attributes", "definition"], .record [])

def defaults : Defaults :=
  [(["identity"], .text ""), (["table_name", "tableName"], .null), attributesField]

theorem defaults_apart : Apart defaults := by
  unfold Apart
  decide

/-- A collection of the values of all its fields. -/
def ofFilled : List Document → Option Collection
  | [identity, tableName, attributes] => do
      return {
        identity := ← text? identity
        tableName := ← optionalText? tableName
        attributes := ← Definition.ofDocument? attributes }
  | _ => none

theorem ofDocument?_record (members : List (String × Document)) :
    ofDocument? (.record members) = (filled? defaults members).bind ofFilled := by
  have hidentity : text? (.text "") = some "" := rfl
  have htable : optionalText? .null = some none := rfl
  have hattributes : Definition.ofDocument? (.record []) = some .empty := rfl
  rw [ofDocument?, fields?, fields, filled?, defaults, attributesField]
  simp only [List.mapM_cons, List.mapM_nil, ← map_field?_getD, orDefault_eq hidentity,
    orDefault_eq htable, orDefault_eq hattributes]
  cases field? ["identity"] members with
  | none => rfl
  | some identity =>
    cases field? ["table_name", "tableName"] members with
    | none => rfl
    | some tableName =>
      cases field? ["attributes", "definition"] members with
      | none => rfl
      | some attributes => rfl

/-- Attributes that stand first are read for those of the rest, which may not have any. -/
theorem ofDocument?_attributes_cons {key : String} (hkey : key ∈ attributesField.1)
    (attributes : Document) (rest : List (String × Document)) :
    ofDocument? (.record ((key, attributes) :: rest)) =
      if given attributesField.1 rest = [] then do
        let collection ← ofDocument? (.record rest)
        return { collection with attributes := ← Definition.ofDocument? attributes }
      else none := by
  have hother : ∀ key ∈ attributesField.1,
      key ∉ ["identity"] ∧ key ∉ ["table_name", "tableName"] := by decide
  rw [ofDocument?_record, ofDocument?_record, filled?, filled?, defaults]
  simp only [List.mapM_cons, List.mapM_nil, given_cons_of_notMem (hother key hkey).1,
    given_cons_of_notMem (hother key hkey).2, given_cons_of_mem hkey]
  cases only? (.text "") (given ["identity"] rest) with
  | none => exact (ite_self none).symm
  | some identity =>
    cases only? .null (given ["table_name", "tableName"] rest) with
    | none => exact (ite_self none).symm
    | some tableName =>
      by_cases hrest : given attributesField.1 rest = []
      · rw [if_pos hrest, hrest]
        -- The attributes are read last, so it makes no difference that the rest has the default.
        show ofFilled [identity, tableName, attributes] =
          (ofFilled [identity, tableName, .record []] >>= _)
        rw [ofFilled, ofFilled]
        cases text? identity with
        | none => rfl
        | some _ =>
          cases optionalText? tableName with
          | none => rfl
          | some _ => rfl
      · have htwice : 1 < (attributes :: given attributesField.1 rest).length :=
          Nat.succ_lt_succ (List.length_pos_of_ne_nil hrest)
        rw [if_neg hrest, only?_eq_none htwice]
        rfl

theorem ofDocument?_eq_of_perm {as bs : List (String × Document)} (h : as.Perm bs) :
    ofDocument? (.record as) = ofDocument? (.record bs) := by
  rw [ofDocument?_record, ofDocument?_record, filled?_eq_of_perm h]

/-- Neither the collection nor one of its columns gives a field twice. -/
def GivesOnce : Document → Prop
  | .record members => Document.GivesOnce defaults members ∧
      ∀ attributes ∈ given attributesField.1 members, Definition.GivesOnce attributes
  | _ => True

/-- One change to how a collection is written, or to how one of its columns is. -/
inductive Respells : Document → Document → Prop
  | members {as bs} (h : Document.Respells defaults as bs) : Respells (.record as) (.record bs)
  | column {key name a b front back rest} (hkey : key ∈ attributesField.1)
      (h : Column.Respells a b) :
      Respells (.record ((key, .record (front ++ (name, a) :: back)) :: rest))
        (.record ((key, .record (front ++ (name, b) :: back)) :: rest))

/-- The same collection but for the order of its attributes. -/
structure Permuted (a b : Collection) : Prop where
  identity : a.identity = b.identity
  tableName : a.tableName = b.tableName
  attributes : a.attributes.entries.Perm b.attributes.entries

theorem mem_defaults : attributesField ∈ defaults :=
  List.mem_cons_of_mem _ (List.mem_cons_of_mem _ List.mem_cons_self)

theorem givesOnce_attributes_cons_iff {key : String} (hkey : key ∈ attributesField.1)
    {attributes : Document} {rest : List (String × Document)} :
    GivesOnce (.record ((key, attributes) :: rest)) ↔
      Document.GivesOnce defaults ((key, attributes) :: rest) ∧
        Definition.GivesOnce attributes ∧
          ∀ others ∈ given attributesField.1 rest, Definition.GivesOnce others := by
  rw [GivesOnce, given_cons_of_mem hkey, List.forall_mem_cons]

theorem Respells.givesOnce {a b : Document} (h : Respells a b) (honce : GivesOnce a) :
    GivesOnce b := by
  cases h with
  | members h =>
      refine ⟨h.givesOnce defaults_apart honce.1, fun attributes hmem => ?_⟩
      exact honce.2 attributes (h.mem_given defaults_apart mem_defaults hmem)
  | column hkey h =>
      rw [givesOnce_attributes_cons_iff hkey, Definition.givesOnce_column_iff] at honce ⊢
      obtain ⟨hfields, ⟨hfront, hcolumn, hback⟩, hrest⟩ := honce
      exact ⟨hfields.cons_congr _, ⟨hfront, h.givesOnce hcolumn, hback⟩, hrest⟩

theorem Respells.ofDocument?_eq {a b : Document} (h : Respells a b) (honce : GivesOnce a) :
    ofDocument? b = ofDocument? a := by
  cases h with
  | members h =>
      rw [ofDocument?_record, ofDocument?_record, h.filled?_eq defaults_apart honce.1]
  | @column key name a b front back rest hkey h =>
      rw [givesOnce_attributes_cons_iff hkey, Definition.givesOnce_column_iff] at honce
      have hcolumn := h.ofDocument?_eq honce.2.1.2.1
      rw [ofDocument?_attributes_cons hkey, ofDocument?_attributes_cons hkey,
        Definition.ofDocument?_column hcolumn name front back]

theorem ofDocument?_eq_none {document : Document} (h : ¬ GivesOnce document) :
    ofDocument? document = none := by
  cases document with
  | record members =>
      by_cases honce : Document.GivesOnce defaults members
      · obtain ⟨attributes, hmem, htwice⟩ : ∃ attributes ∈ given attributesField.1 members,
            ¬ Definition.GivesOnce attributes := by
          simpa only [GivesOnce, honce, true_and, not_forall, exists_prop] using h
        -- These attributes may stand first, where reading them is all that is left to fail.
        obtain ⟨key, hkey, rest, hperm⟩ := exists_perm_of_mem_given hmem
        rw [ofDocument?_eq_of_perm hperm, ofDocument?_attributes_cons hkey,
          Definition.ofDocument?_eq_none htwice]
        by_cases hrest : given attributesField.1 rest = []
        · rw [if_pos hrest]
          cases ofDocument? (.record rest) <;> rfl
        · rw [if_neg hrest]
      · rw [ofDocument?_record, filled?_eq_none honce]
        rfl
  | _ => exact absurd trivial h

/-- Attributes in another order are read in that order, and all else stays. -/
theorem rel_ofDocument?_of_perm {key : String} (hkey : key ∈ attributesField.1)
    {as bs : List (String × Document)} (h : as.Perm bs) (hnames : (as.map Prod.fst).Nodup)
    (before after : List (String × Document)) :
    Option.Rel Permuted (ofDocument? (.record (before ++ (key, .record as) :: after)))
      (ofDocument? (.record (before ++ (key, .record bs) :: after))) := by
  rw [ofDocument?_eq_of_perm List.perm_middle, ofDocument?_eq_of_perm List.perm_middle,
    ofDocument?_attributes_cons hkey, ofDocument?_attributes_cons hkey]
  by_cases hrest : given attributesField.1 (before ++ after) = []
  · rw [if_pos hrest, if_pos hrest]
    have hrel := Definition.rel_ofDocument?_of_perm h hnames
    generalize Definition.ofDocument? (.record as) = definition at hrel ⊢
    generalize Definition.ofDocument? (.record bs) = other at hrel ⊢
    cases ofDocument? (.record (before ++ after)) with
    | none => exact .none
    | some collection =>
        cases hrel with
        | none => exact .none
        | some hperm => exact .some ⟨rfl, rfl, hperm⟩
  · rw [if_neg hrest, if_neg hrest]
    exact .none

end Collection

/-- Documents that give each field at most once are read alike however they are respelled, and no
other document is read. -/
structure ReadsAlike (read : Document → Option α) (once : Document → Prop)
    (respells : Document → Document → Prop) : Prop where
  same : ∀ a b, once a → Relation.ReflTransGen respells a b → read b = read a
  twice : ∀ a, ¬ once a → read a = none

/-- One change at a time. -/
theorem readsAlike_of_step {read : Document → Option α} {once : Document → Prop}
    {respells : Document → Document → Prop}
    (honce : ∀ a b, respells a b → once a → once b)
    (hread : ∀ a b, respells a b → once a → read b = read a)
    (htwice : ∀ a, ¬ once a → read a = none) : ReadsAlike read once respells := by
  refine ⟨fun a b ha h => ?_, htwice⟩
  have hrun : once b ∧ read b = read a := by
    induction h with
    | refl => exact ⟨ha, rfl⟩
    | tail _ hstep ih => exact ⟨honce _ _ hstep ih.1, (hread _ _ hstep ih.1).trans ih.2⟩
  exact hrun.2

theorem Column.readsAlike : ReadsAlike Column.ofDocument? Column.GivesOnce Column.Respells :=
  readsAlike_of_step (fun _ _ h => h.givesOnce) (fun _ _ h => h.ofDocument?_eq)
    fun _ => Column.ofDocument?_eq_none

theorem Collection.readsAlike :
    ReadsAlike Collection.ofDocument? Collection.GivesOnce Collection.Respells :=
  readsAlike_of_step (fun _ _ h => h.givesOnce) (fun _ _ h => h.ofDocument?_eq)
    fun _ => Collection.ofDocument?_eq_none

/-- Definitions are read alike in all their spellings. -/
theorem definitions_read_alike :
    (∀ column : Column, ∀ json ∈ [column.toJson, .array column.values],
      Column.ofDocument? (.ofJson json) = some column ∧
        Column.ofText? json.compact = some column) ∧
    ReadsAlike Column.ofDocument? Column.GivesOnce Column.Respells ∧
    ReadsAlike Collection.ofDocument? Collection.GivesOnce Collection.Respells ∧
    ∀ key ∈ Collection.attributesField.1, ∀ as bs : List (String × Document),
      as.Perm bs → (as.map Prod.fst).Nodup → ∀ before after,
        Option.Rel Collection.Permuted
          (Collection.ofDocument? (.record (before ++ (key, .record as) :: after)))
          (Collection.ofDocument? (.record (before ++ (key, .record bs) :: after))) := by
  refine ⟨fun column json hjson => ?_, Column.readsAlike, Collection.readsAlike, ?_⟩
  · rcases List.mem_pair.1 hjson with rfl | rfl
    · exact ⟨column.ofDocument?_toJson, column.ofText?_toJson⟩
    · exact ⟨column.ofDocument?_values, column.ofText?_values⟩
  · intro key hkey as bs hperm hnames
    exact Collection.rel_ofDocument?_of_perm hkey hperm hnames

/-- A column with a default that is written out. -/
def spelled : Document := .record [("unique", .flag false), ("primary_key", .flag true)]

/-- The same column without the default, and under the other name. -/
def respelled : Document := .record [("primaryKey", .flag true)]

def spelledTwice : Document := .record [("primaryKey", .flag true), ("primary_key", .flag true)]

theorem definitions_read_alike_respelled :
    Column.ofText? (Column.plain none).toJson.compact = some (Column.plain none) ∧
    Column.ofDocument? respelled = Column.ofDocument? spelled ∧
    Column.ofDocument? spelledTwice = none ∧
    Collection.ofDocument?
        (.record [("note", .number), ("definition", .record [("id", respelled)])]) =
      Collection.ofDocument? (.record [("attributes", .record [("id", spelled)])]) ∧
    Collection.ofDocument? (.record [("attributes", .record [("id", spelledTwice)])]) = none ∧
    Option.Rel Collection.Permuted
      (Collection.ofDocument? (.record [("attributes",
        .record [("id", spelled), ("name", .record [])])]))
      (Collection.ofDocument? (.record [("attributes",
        .record [("name", .record []), ("id", spelled)])])) := by
  obtain ⟨hround, hcolumn, hcollection, hperm⟩ := definitions_read_alike
  have hunique : (["unique"], .flag false) ∈ Column.defaults := by simp [Column.defaults]
  have hkey : (["primary_key", "primaryKey"], .flag false) ∈ Column.defaults := by
    simp [Column.defaults]
  have honce : Column.GivesOnce spelled := by
    show ∀ field ∈ Column.defaults, _ ≤ 1
    decide
  have htwice : ¬ Column.GivesOnce spelledTwice := fun h => absurd (h _ hkey) (by decide)
  have hdropped : Column.Respells spelled (.record [("primary_key", .flag true)]) :=
    .members (.drop hunique List.mem_cons_self)
  have hrenamed : Column.Respells (.record [("primary_key", .flag true)]) respelled :=
    .members (.rename hkey (by decide) (by decide))
  have hattributes : "attributes" ∈ Collection.attributesField.1 := List.mem_cons_self
  have hdefinition : "definition" ∈ Collection.attributesField.1 := by decide
  have honce' : Collection.GivesOnce (.record [("attributes", .record [("id", spelled)])]) := by
    have hfields : ∀ field ∈ Collection.defaults,
        (given field.1 [("attributes", .record [("id", spelled)])]).length ≤ 1 := by decide
    rw [Collection.givesOnce_attributes_cons_iff hattributes]
    exact ⟨hfields, List.forall_mem_singleton.2 honce, List.forall_mem_nil _⟩
  have htwice' : ¬ Collection.GivesOnce
      (.record [("attributes", .record [("id", spelledTwice)])]) := by
    rw [Collection.givesOnce_attributes_cons_iff hattributes]
    exact fun h => htwice (h.2.1 _ List.mem_cons_self)
  have hrun : Relation.ReflTransGen Collection.Respells
      (.record [("attributes", .record [("id", spelled)])])
      (.record [("note", .number), ("definition", .record [("id", respelled)])]) := by
    apply Relation.ReflTransGen.head
      (@Collection.Respells.column _ _ _ _ [] [] [] hattributes hdropped)
    apply Relation.ReflTransGen.head
      (@Collection.Respells.column _ _ _ _ [] [] [] hattributes hrenamed)
    apply Relation.ReflTransGen.head
      (.members (.rename Collection.mem_defaults hattributes hdefinition))
    exact .single (.members (.add (by decide)))
  exact ⟨(hround _ _ List.mem_cons_self).2,
    hcolumn.same _ _ honce ((Relation.ReflTransGen.single hdropped).tail hrenamed),
    hcolumn.twice _ htwice, hcollection.same _ _ honce' hrun, hcollection.twice _ htwice',
    hperm "attributes" hattributes _ _ (.swap _ _ _) (by decide) [] []⟩

end CriteriaSql
