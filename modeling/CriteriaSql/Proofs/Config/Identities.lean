import CriteriaSql.Config
import Mathlib.Data.Finset.Card
import Mathlib.Data.List.Nodup

/-!
Which collection of a configuration an identity stands for. Entries may name an identity that is
the key of another entry, or that another entry names too. The first of them has it.
-/

namespace CriteriaSql

namespace Registry

variable {registry : Registry} {identity : String}

/-- Everything that is registered is found, under its own identity and no other. -/
theorem find?_eq_some_iff {collection : Collection} :
    registry.find? identity = some collection ↔
      collection ∈ registry.collections ∧ collection.identity = identity := by
  constructor
  · intro h
    exact ⟨List.mem_of_find?_eq_some h, by simpa using List.find?_some h⟩
  · rintro ⟨hmem, rfl⟩
    have hfound : (registry.find? collection.identity).isSome :=
      List.find?_isSome.2 ⟨collection, hmem, by simp⟩
    obtain ⟨other, hother⟩ := Option.isSome_iff_exists.1 hfound
    have hidentity : other.identity = collection.identity := by simpa using List.find?_some hother
    rw [hother, List.inj_on_of_nodup_map registry.distinct (List.mem_of_find?_eq_some hother) hmem
      hidentity]

theorem get_eq_ok_iff {collection : Collection} :
    registry.get identity = .ok collection ↔ registry.find? identity = some collection := by
  rw [get]
  cases registry.find? identity <;> simp

theorem get_eq_error_iff {fault : Fault} :
    registry.get identity = .error fault ↔
      fault = .unknownCollection identity ∧ registry.find? identity = none := by
  rw [get]
  cases registry.find? identity <;> simp [eq_comm]

/-- An identity that is registered keeps its collection. -/
theorem find?_foldl_register_of_some {collection : Collection}
    (h : registry.find? identity = some collection) (more : List Collection) :
    (more.foldl register registry).find? identity = some collection := by
  rw [find?_foldl_register, h, Option.some_or]

end Registry

namespace Config

/-- The identity of an entry: its own, or its key if it names none. -/
def identityOf (entry : String × Collection) : String :=
  if entry.2.identity = "" then entry.1 else entry.2.identity

theorem nameByKey_eq (entry : String × Collection) :
    nameByKey entry.1 entry.2 = { entry.2 with identity := identityOf entry } := by
  unfold nameByKey identityOf
  split <;> rfl

/-- The entry has the identity, and none before it does. -/
structure IsFirst (entries : List (String × Collection)) (identity : String)
    (entry : String × Collection) : Prop where
  identityOf_eq : identityOf entry = identity
  split : ∃ before after, entries = before ++ entry :: after ∧
    ∀ earlier ∈ before, identityOf earlier ≠ identity

/-- What a registry has to make of entries in the order of their file. -/
structure Resolves (entries : List (String × Collection)) (registry : Registry) : Prop where
  get : ∀ identity collection, registry.get identity = .ok collection ↔
    ∃ entry, IsFirst entries identity entry ∧ collection = { entry.2 with identity }
  unknown : ∀ identity fault, registry.get identity = .error fault ↔
    fault = .unknownCollection identity ∧ identity ∉ entries.map identityOf
  table : ∀ identity entry, IsFirst entries identity entry →
    registry.tableFor identity = entry.2.tableName.getD identity
  unregistered : ∀ identity, identity ∉ entries.map identityOf →
    registry.tableFor identity = identity
  size : registry.size = (entries.map identityOf).toFinset.card
  own : ∀ identity collection, registry.get identity = .ok collection ↔
    collection ∈ registry.collections ∧ collection.identity = identity
  stays : ∀ identity collection, registry.get identity = .ok collection →
    ∀ more : List Collection, let later := more.foldl Registry.register registry
      later.get identity = .ok collection ∧ later.tableFor identity = registry.tableFor identity

section

variable (config : Config) (identity : String)

/-- Which entry is found is decided by the identities as they are filled in. -/
theorem find?_registry_withIdentities :
    config.withIdentities.registry.find? identity =
      (config.collections.entries.find? fun entry => identityOf entry == identity).map
        fun entry => { entry.2 with identity := identityOf entry } := by
  have hvalues : config.withIdentities.collections.values =
      config.collections.entries.map
        fun entry => { entry.2 with identity := identityOf entry } := by
    show (config.collections.entries.map _).map _ = _
    rw [List.map_map]
    exact List.map_congr_left fun entry _ => nameByKey_eq entry
  rw [registry, Registry.find?_ofList, hvalues, List.find?_map]
  rfl

theorem find?_registry_eq_some_iff (collection : Collection) :
    config.withIdentities.registry.find? identity = some collection ↔
      ∃ entry, IsFirst config.collections.entries identity entry ∧
        collection = { entry.2 with identity } := by
  rw [find?_registry_withIdentities, Option.map_eq_some_iff]
  constructor
  · rintro ⟨entry, hentry, rfl⟩
    obtain ⟨hidentity, before, after, hentries, hbefore⟩ := List.find?_eq_some_iff_append.1 hentry
    have hidentity : identityOf entry = identity := by simpa using hidentity
    refine ⟨entry, ⟨hidentity, before, after, hentries, ?_⟩, by rw [hidentity]⟩
    intro earlier hearlier
    simpa using hbefore earlier hearlier
  · rintro ⟨entry, ⟨hidentity, before, after, hentries, hbefore⟩, rfl⟩
    refine ⟨entry, ?_, by rw [hidentity]⟩
    rw [List.find?_eq_some_iff_append]
    refine ⟨by simpa using hidentity, before, after, hentries, ?_⟩
    intro earlier hearlier
    simpa using hbefore earlier hearlier

theorem find?_registry_eq_none_iff :
    config.withIdentities.registry.find? identity = none ↔
      identity ∉ config.collections.entries.map identityOf := by
  rw [find?_registry_withIdentities, Option.map_eq_none_iff, List.find?_eq_none]
  simp

end

theorem size_registry (config : Config) :
    config.withIdentities.registry.size =
      (config.collections.entries.map identityOf).toFinset.card := by
  let registry := config.withIdentities.registry
  have hidentities : (registry.collections.map Collection.identity).toFinset =
      (config.collections.entries.map identityOf).toFinset := by
    ext identity
    -- An identity is missing on the one side if and only if it is missing on the other.
    have hmissing : registry.find? identity = none ↔
        identity ∉ registry.collections.map Collection.identity := by
      rw [Registry.find?, List.find?_eq_none]
      simp
    rw [find?_registry_eq_none_iff config identity, not_iff_not] at hmissing
    rw [List.mem_toFinset, List.mem_toFinset, hmissing]
  rw [← hidentities, List.toFinset_card_of_nodup registry.distinct, List.length_map]
  rfl

theorem resolves_registry (config : Config) :
    Resolves config.collections.entries config.withIdentities.registry where
  get identity collection := by
    rw [Registry.get_eq_ok_iff, find?_registry_eq_some_iff]
  unknown identity fault := by
    rw [Registry.get_eq_error_iff, find?_registry_eq_none_iff]
  table identity entry hentry := by
    rw [Registry.tableFor, (find?_registry_eq_some_iff config identity _).2 ⟨entry, hentry, rfl⟩]
    rfl
  unregistered identity hnone := by
    rw [Registry.tableFor, (find?_registry_eq_none_iff config identity).2 hnone]
  size := size_registry config
  own identity collection := by
    rw [Registry.get_eq_ok_iff, Registry.find?_eq_some_iff]
  stays identity collection h more := by
    have hfind := Registry.get_eq_ok_iff.1 h
    have hlater := Registry.find?_foldl_register_of_some hfind more
    refine ⟨Registry.get_eq_ok_iff.2 hlater, ?_⟩
    rw [Registry.tableFor, Registry.tableFor, hlater, hfind]

/-- In the registry of a configuration an identity stands for the first entry that has it, and
keeps it and its table whatever is registered later. What is read from a text has the entries of
the text in their order. -/
theorem identity_resolution :
    (∀ config : Config, Resolves config.collections.entries config.withIdentities.registry) ∧
    ∀ text, (∃ cause, ofToml text = .error cause) ∨
      ∃ value read config, Toml.ofText? text = some value ∧
        ofDocument? (.ofToml value) = some read ∧ ofToml text = .ok config ∧
        Resolves read.collections.entries config.registry := by
  refine ⟨resolves_registry, fun text => ?_⟩
  unfold ofToml
  cases hvalue : Toml.ofText? text with
  | none => exact .inl ⟨.notToml, rfl⟩
  | some value =>
      cases hread : ofDocument? (.ofToml value) with
      | none => exact .inl ⟨.wrongShape, by simp only [hread]⟩
      | some read =>
          exact .inr ⟨value, read, read.withIdentities, rfl, hread, by simp only [hread],
            resolves_registry read⟩

/-- Two entries name the keys of others. What stands under the key `sale` comes too late for it,
and nothing is left for `user`. -/
example :
    let read : Config := { empty with collections :=
      ⟨[("log", ⟨"sale", none, .empty⟩), ("user", ⟨"log", some "USERS", .empty⟩),
        ("sale", ⟨"", some "SALES", .empty⟩)], by decide⟩ }
    let registry := read.withIdentities.registry
    registry.size = 2 ∧ registry.tableFor "log" = "USERS" ∧ registry.tableFor "sale" = "sale" ∧
      registry.tableFor "user" = "user" := by
  decide

end Config

end CriteriaSql
