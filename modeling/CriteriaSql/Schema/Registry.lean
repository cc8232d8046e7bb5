import CriteriaSql.Fault
import CriteriaSql.Schema.Describe

/-!
Collections, each kept in one table, and the registry that has them by identity. The first one
registered under an identity stays.
-/

namespace CriteriaSql

/-- The column that identifies a row where no other is declared to. -/
def defaultPrimaryKey : String := "id"

structure Collection where
  identity : String
  tableName : Option String
  attributes : Definition

namespace Collection

def named (identity : String) : Collection where
  identity
  tableName := none
  attributes := .empty

def withTable (collection : Collection) (table : String) : Collection :=
  { collection with tableName := some table }

def withAttribute (collection : Collection) (name : String) (column : Column) : Collection :=
  { collection with attributes := collection.attributes.insert name column }

/-- A collection without a table name is kept in the table of its identity. -/
def table (collection : Collection) : String :=
  collection.tableName.getD collection.identity

/-- Of several primary keys the last one counts. -/
def primaryKey (collection : Collection) : String :=
  let keys := (collection.attributes.entries.filter fun entry => entry.2.primaryKey).map Prod.fst
  keys.getLast?.getD defaultPrimaryKey

def toJson (collection : Collection) : Json :=
  .object [
    ("identity", .string collection.identity),
    ("table_name", match collection.tableName with
      | none => .null
      | some name => .string name),
    ("attributes", .object (collection.attributes.map Column.toJson).entries)]

end Collection

/-! Registries. -/

structure Registry where
  collections : List Collection
  distinct : (collections.map Collection.identity).Nodup

namespace Registry

def empty : Registry := ⟨[], List.nodup_nil⟩

def find? (registry : Registry) (identity : String) : Option Collection :=
  registry.collections.find? fun collection => collection.identity == identity

def register (registry : Registry) (collection : Collection) : Registry :=
  if known : collection.identity ∈ registry.collections.map Collection.identity then
    registry
  else
    ⟨registry.collections ++ [collection], by
      rw [List.map_append, List.nodup_append]
      refine ⟨registry.distinct, by simp, ?_⟩
      intro a ha b hb hab
      have hb' : b = collection.identity := by simpa using hb
      exact known (hb' ▸ hab ▸ ha)⟩

/-- A collection is found unless an earlier one has its identity. -/
theorem find?_register (registry : Registry) (collection : Collection) (identity : String) :
    (registry.register collection).find? identity =
      (registry.find? identity).or
        ([collection].find? fun collection => collection.identity == identity) := by
  unfold register
  split <;> rename_i hknown
  · obtain ⟨earlier, hmem, hearlier⟩ := List.mem_map.1 hknown
    by_cases hidentity : collection.identity = identity
    · have hfound : (registry.find? identity).isSome :=
        List.find?_isSome.2 ⟨earlier, hmem, by simp [hearlier, hidentity]⟩
      rw [Option.or_of_isSome hfound]
    · rw [List.find?_singleton, if_neg (by simpa using hidentity), Option.or_none]
  · exact List.find?_append

/-- What is registered already is found first, and then the first of what comes later. -/
theorem find?_foldl_register (registry : Registry) (more : List Collection) (identity : String) :
    (more.foldl register registry).find? identity =
      (registry.find? identity).or
        (more.find? fun collection => collection.identity == identity) := by
  induction more generalizing registry with
  | nil => exact (Option.or_none).symm
  | cons collection rest ih =>
      rw [List.foldl_cons, ih, find?_register, Option.or_assoc, ← List.find?_append,
        List.singleton_append]

def ofList (collections : List Collection) : Registry :=
  collections.foldl register empty

theorem find?_ofList (collections : List Collection) (identity : String) :
    (ofList collections).find? identity =
      collections.find? fun collection => collection.identity == identity :=
  find?_foldl_register empty collections identity

def get (registry : Registry) (identity : String) : Except Fault Collection :=
  match registry.find? identity with
  | some collection => .ok collection
  | none => .error (.unknownCollection identity)

/-- An identity that is not registered is taken for a table. -/
def tableFor (registry : Registry) (identity : String) : String :=
  match registry.find? identity with
  | some collection => collection.table
  | none => identity

def size (registry : Registry) : Nat :=
  registry.collections.length

def isEmpty (registry : Registry) : Bool :=
  registry.collections.isEmpty

end Registry

end CriteriaSql
