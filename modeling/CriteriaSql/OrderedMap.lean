/-!
Maps from names that keep the order in which the names came. A name given again keeps its place
and takes the new value.
-/

namespace CriteriaSql

structure OrderedMap (α : Type u) where
  entries : List (String × α)
  distinct : (entries.map Prod.fst).Nodup

namespace OrderedMap

/-- Gives `key` its new value in place, or at the end if it is new. -/
def put (key : String) (value : α) : List (String × α) → List (String × α)
  | [] => [(key, value)]
  | entry :: rest =>
      if entry.1 = key then (key, value) :: rest else entry :: put key value rest

theorem mem_keys_put {key k : String} {value : α} {entries : List (String × α)} :
    k ∈ (put key value entries).map Prod.fst ↔ k = key ∨ k ∈ entries.map Prod.fst := by
  induction entries with
  | nil => simp [put]
  | cons entry rest ih =>
      unfold put
      split <;> rename_i h
      · subst h; simp
      · rw [List.map_cons, List.mem_cons, ih, List.map_cons, List.mem_cons]
        exact or_left_comm

theorem put_of_notMem {key : String} {value : α} {entries : List (String × α)}
    (h : key ∉ entries.map Prod.fst) : put key value entries = entries ++ [(key, value)] := by
  induction entries with
  | nil => rfl
  | cons entry rest ih =>
      rw [List.map_cons, List.mem_cons, not_or] at h
      rw [put, if_neg (Ne.symm h.1), ih h.2, List.cons_append]

/-- Whatever the new value is, it has the same entries before it and behind it. -/
theorem exists_put_eq (key : String) (entries : List (String × α)) :
    ∃ before after, ∀ value, put key value entries = before ++ (key, value) :: after := by
  induction entries with
  | nil => exact ⟨[], [], fun _ => rfl⟩
  | cons entry rest ih =>
      by_cases hkey : entry.1 = key
      · refine ⟨[], rest, fun value => ?_⟩
        rw [put, if_pos hkey]
        rfl
      · obtain ⟨before, after, hput⟩ := ih
        refine ⟨entry :: before, after, fun value => ?_⟩
        rw [put, if_neg hkey, hput value]
        rfl

theorem lookup_cons_eq_ite (entry : String × α) (rest : List (String × α)) (key : String) :
    (entry :: rest).lookup key = if key = entry.1 then some entry.2 else rest.lookup key := by
  obtain ⟨k, value⟩ := entry
  rw [List.lookup_cons]
  by_cases h : key = k
  · rw [if_pos h, beq_iff_eq.2 h]
  · rw [if_neg h, beq_false_of_ne h]

/-- A new value is found under its own key, and nothing changes under the others. -/
theorem lookup_put (key other : String) (value : α) (entries : List (String × α)) :
    (put key value entries).lookup other =
      if other = key then some value else entries.lookup other := by
  induction entries with
  | nil => rw [put, lookup_cons_eq_ite]
  | cons entry rest ih =>
      by_cases hkey : entry.1 = key
      · rw [put, if_pos hkey, lookup_cons_eq_ite, lookup_cons_eq_ite, hkey]
        by_cases h : other = key
        · rw [if_pos h, if_pos h]
        · rw [if_neg h, if_neg h, if_neg h]
      · rw [put, if_neg hkey, lookup_cons_eq_ite, lookup_cons_eq_ite, ih]
        by_cases h : other = entry.1
        · rw [if_pos h, if_pos h, if_neg (h ▸ hkey)]
        · rw [if_neg h, if_neg h]

theorem nodup_keys_put {key : String} {value : α} {entries : List (String × α)}
    (h : (entries.map Prod.fst).Nodup) : ((put key value entries).map Prod.fst).Nodup := by
  induction entries with
  | nil => simp [put]
  | cons entry rest ih =>
      have hcons := List.nodup_cons.1 h
      unfold put
      split <;> rename_i hk
      · subst hk; exact h
      · refine List.nodup_cons.2 ⟨fun hmem => ?_, ih hcons.2⟩
        rcases mem_keys_put.1 hmem with hk' | hmem'
        · exact hk hk'
        · exact hcons.1 hmem'

def empty : OrderedMap α := ⟨[], List.nodup_nil⟩

def insert (map : OrderedMap α) (key : String) (value : α) : OrderedMap α :=
  ⟨put key value map.entries, nodup_keys_put map.distinct⟩

theorem exists_entries_insert_eq (map : OrderedMap α) (key : String) :
    ∃ before after, ∀ value, (map.insert key value).entries = before ++ (key, value) :: after :=
  exists_put_eq key map.entries

theorem lookup_insert (map : OrderedMap α) (key other : String) (value : α) :
    (map.insert key value).entries.lookup other =
      if other = key then some value else map.entries.lookup other :=
  lookup_put key other value map.entries

def ofList (entries : List (String × α)) : OrderedMap α :=
  entries.foldl (fun map entry => map.insert entry.1 entry.2) empty

theorem entries_foldl_insert {map : OrderedMap α} {entries : List (String × α)}
    (h : ((map.entries ++ entries).map Prod.fst).Nodup) :
    (entries.foldl (fun map entry => map.insert entry.1 entry.2) map).entries =
      map.entries ++ entries := by
  induction entries generalizing map with
  | nil => exact (List.append_nil map.entries).symm
  | cons entry rest ih =>
      have hnew : entry.1 ∉ map.entries.map Prod.fst := by
        rw [List.map_append, List.map_cons] at h
        exact fun hmem => (List.nodup_append.1 h).2.2 _ hmem _ List.mem_cons_self rfl
      have hentries : (map.insert entry.1 entry.2).entries = map.entries ++ [entry] :=
        put_of_notMem hnew
      have hsplit :
          map.entries ++ entry :: rest = (map.insert entry.1 entry.2).entries ++ rest := by
        rw [hentries, List.append_assoc, List.singleton_append]
      rw [List.foldl_cons, hsplit]
      exact ih (hsplit ▸ h)

/-- What is given under names that are all different is kept as it is given. -/
theorem entries_ofList {entries : List (String × α)} (h : (entries.map Prod.fst).Nodup) :
    (ofList entries).entries = entries :=
  entries_foldl_insert h

def get? (map : OrderedMap α) (key : String) : Option α :=
  map.entries.lookup key

/-- An entry is found by its name, which no other entry has. -/
theorem get?_eq_some_iff {map : OrderedMap α} {key : String} {value : α} :
    map.get? key = some value ↔ (key, value) ∈ map.entries := by
  rw [get?, List.lookup_eq_some_iff]
  constructor
  · rintro ⟨before, after, hentries, -⟩
    rw [hentries]
    exact List.mem_append_right before List.mem_cons_self
  · intro hmem
    obtain ⟨before, after, hentries⟩ := List.append_of_mem hmem
    have hdistinct := map.distinct
    rw [hentries, List.map_append, List.map_cons, List.nodup_append] at hdistinct
    refine ⟨before, after, hentries, fun entry hentry => ?_⟩
    have hne := hdistinct.2.2 entry.1 (List.mem_map_of_mem hentry) key List.mem_cons_self
    simpa using hne.symm

def keys (map : OrderedMap α) : List String :=
  map.entries.map Prod.fst

def values (map : OrderedMap α) : List α :=
  map.entries.map Prod.snd

def map (f : α → β) (source : OrderedMap α) : OrderedMap β where
  entries := source.entries.map fun entry => (entry.1, f entry.2)
  distinct := by simpa [Function.comp_def] using source.distinct

instance : Inhabited (OrderedMap α) := ⟨empty⟩

@[ext] theorem ext {a b : OrderedMap α} (h : a.entries = b.entries) : a = b := by
  cases a; cases b; cases h; rfl

end OrderedMap

end CriteriaSql
