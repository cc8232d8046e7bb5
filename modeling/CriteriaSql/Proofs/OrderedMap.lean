import CriteriaSql.OrderedMap
import Mathlib.Data.List.Basic
import Mathlib.Data.List.Induction

/-!
Ordered maps are told apart by their names in order and by what is found under each, and so is what
comes of many entries that are inserted one after another.
-/

namespace CriteriaSql.OrderedMap

theorem entries_eq_filterMap (map : OrderedMap α) :
    map.entries = map.keys.filterMap fun key => (map.get? key).map fun value => (key, value) := by
  have hfound : ∀ entry ∈ map.entries,
      ((map.get? entry.1).map fun value => (entry.1, value)) = some entry := by
    intro entry hentry
    rw [get?_eq_some_iff.2 hentry]
    rfl
  rw [keys, List.filterMap_map]
  exact ((List.filterMap_congr hfound).trans List.filterMap_some).symm

theorem ext_get? {a b : OrderedMap α} (hkeys : a.keys = b.keys)
    (hget : ∀ key, a.get? key = b.get? key) : a = b := by
  ext1
  rw [entries_eq_filterMap a, entries_eq_filterMap b, hkeys]
  simp only [hget]

/-- The last of some names is kept if it is there for the first time. -/
theorem eraseDups_concat (names : List String) (name : String) :
    (names ++ [name]).eraseDups =
      if name ∈ names then names.eraseDups else names.eraseDups ++ [name] := by
  rw [List.eraseDups_append]
  by_cases h : name ∈ names
  · rw [if_pos h]
    simp [List.removeAll, h]
  · rw [if_neg h]
    simp [List.removeAll, h, List.eraseDups_cons]

/-- One entry after another. -/
def insertAll (map : OrderedMap α) (entries : List (String × α)) : OrderedMap α :=
  entries.foldl (fun map entry => map.insert entry.1 entry.2) map

section

variable (map : OrderedMap α) (entries : List (String × α))

theorem ofList_eq_insertAll : ofList entries = empty.insertAll entries :=
  rfl

theorem insertAll_append (more : List (String × α)) :
    map.insertAll (entries ++ more) = (map.insertAll entries).insertAll more :=
  List.foldl_append

/-- A name that is there already keeps its place, and a new one comes last. -/
theorem keys_insert (key : String) (value : α) :
    (map.insert key value).keys =
      if key ∈ map.keys then map.keys else map.keys ++ [key] := by
  show (put key value map.entries).map Prod.fst = _
  rw [keys]
  induction map.entries with
  | nil => rfl
  | cons entry rest ih =>
      by_cases hkey : entry.1 = key
      · rw [put, if_pos hkey, if_pos (by simp [hkey]), List.map_cons, List.map_cons, hkey]
      · rw [put, if_neg hkey, List.map_cons, List.map_cons, ih]
        by_cases hmem : key ∈ rest.map Prod.fst
        · rw [if_pos hmem, if_pos (List.mem_cons_of_mem _ hmem)]
        · rw [if_neg hmem, if_neg (by simp [hmem, Ne.symm hkey]), List.cons_append]

/-- The names of a map stay where they are, and new ones follow as they first appear. -/
theorem keys_insertAll :
    (map.insertAll entries).keys =
      map.keys ++ (entries.map Prod.fst).eraseDups.filter (· ∉ map.keys) := by
  -- From the end: whether the last name is new depends on all names before it.
  induction entries using List.reverseRecOn with
  | nil => simp [insertAll]
  | append_singleton rest entry ih =>
      have hstep : map.insertAll (rest ++ [entry]) =
          (map.insertAll rest).insert entry.1 entry.2 :=
        insertAll_append map rest [entry]
      have hknown : entry.1 ∈ (map.insertAll rest).keys ↔
          entry.1 ∈ map.keys ∨ entry.1 ∈ rest.map Prod.fst := by
        rw [ih, List.mem_append, List.mem_filter, List.mem_eraseDups]
        by_cases h : entry.1 ∈ map.keys <;> simp [h]
      have hnames : (rest ++ [entry]).map Prod.fst = rest.map Prod.fst ++ [entry.1] :=
        List.map_append
      rw [hstep, keys_insert, hnames, eraseDups_concat]
      by_cases hrest : entry.1 ∈ rest.map Prod.fst
      · rw [if_pos (hknown.2 (.inr hrest)), if_pos hrest, ih]
      · rw [if_neg hrest, List.filter_append, ← List.append_assoc, ← ih]
        by_cases hmap : entry.1 ∈ map.keys
        · rw [if_pos (hknown.2 (.inl hmap)), List.filter_cons_of_neg (by simpa using hmap),
            List.filter_nil, List.append_nil]
        · rw [if_neg fun h => (hknown.1 h).elim hmap hrest,
            List.filter_cons_of_pos (by simpa using hmap), List.filter_nil]

/-- The last value that is given under a name counts. -/
theorem get?_insertAll (key : String) :
    (map.insertAll entries).get? key = (entries.reverse.lookup key).or (map.get? key) := by
  induction entries generalizing map with
  | nil => rfl
  | cons entry rest ih =>
      have hstep : map.insertAll (entry :: rest) =
          (map.insert entry.1 entry.2).insertAll rest := rfl
      have hinsert : (map.insert entry.1 entry.2).get? key =
          if key = entry.1 then some entry.2 else map.get? key :=
        lookup_insert map entry.1 key entry.2
      rw [hstep, ih, hinsert, List.reverse_cons, List.lookup_append, Option.or_assoc,
        lookup_cons_eq_ite]
      by_cases hkey : key = entry.1
      · rw [if_pos hkey, if_pos hkey, Option.some_or]
      · rw [if_neg hkey, if_neg hkey, List.lookup_nil, Option.none_or]

theorem keys_ofList : (ofList entries).keys = (entries.map Prod.fst).eraseDups := by
  rw [ofList_eq_insertAll, keys_insertAll]
  simp [keys, empty]

theorem get?_ofList (key : String) : (ofList entries).get? key = entries.reverse.lookup key := by
  rw [ofList_eq_insertAll, get?_insertAll]
  exact Option.or_none

theorem ofList_entries : ofList map.entries = map :=
  ext (entries_ofList map.distinct)

theorem eraseDups_keys : map.keys.eraseDups = map.keys := by
  have hkeys := keys_ofList map.entries
  rw [ofList_entries] at hkeys
  exact hkeys.symm

/-- Of names that are all different those are added that are new. -/
theorem keys_insertAll_entries (other : OrderedMap α) :
    (map.insertAll other.entries).keys = map.keys ++ other.keys.filter (· ∉ map.keys) := by
  rw [keys_insertAll]
  show map.keys ++ other.keys.eraseDups.filter _ = _
  rw [eraseDups_keys]

/-- What is inserted may just as well be put together first. -/
theorem insertAll_ofList : map.insertAll (ofList entries).entries = map.insertAll entries := by
  apply ext_get?
  · rw [keys_insertAll_entries, keys_ofList, keys_insertAll]
  · intro key
    have hlookup := get?_ofList (ofList entries).entries key
    rw [ofList_entries, get?_ofList] at hlookup
    rw [get?_insertAll, get?_insertAll, hlookup]

end

end CriteriaSql.OrderedMap
