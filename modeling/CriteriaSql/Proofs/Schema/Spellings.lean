import CriteriaSql.Schema.Document
import Mathlib.Data.List.Pairwise
import Mathlib.Data.List.Perm.Basic
import Mathlib.Logic.Relation

/-!
The ways to write one structure. A field may stand anywhere, under any of its names, and may be
left out where it has its default; whatever is no field may be there too. A field that is given
twice is never read.
-/

namespace CriteriaSql

section

variable {f g : α → Option β} {as bs : List α}

theorem mapM_option_congr (h : ∀ item ∈ as, f item = g item) : as.mapM f = as.mapM g := by
  induction as with
  | nil => rfl
  | cons item rest ih =>
      have hrest := ih fun i hi => h i (List.mem_cons_of_mem _ hi)
      rw [List.mapM_cons, List.mapM_cons, h item List.mem_cons_self, hrest]

theorem mapM_eq_none_of_mem {item : α} (hmem : item ∈ as) (h : f item = none) :
    as.mapM f = none := by
  induction as with
  | nil => cases hmem
  | cons first rest ih =>
      rw [List.mapM_cons]
      rcases List.mem_cons.1 hmem with rfl | hrest
      · rw [h]
        rfl
      · rw [ih hrest]
        cases f first <;> rfl

/-- Items in another order give their results in another order. -/
theorem rel_mapM_of_perm (h : as.Perm bs) : Option.Rel List.Perm (as.mapM f) (bs.mapM f) := by
  induction h with
  | nil => exact .some (.refl _)
  | @cons item as bs _ ih =>
      rw [List.mapM_cons, List.mapM_cons]
      generalize as.mapM f = results at ih ⊢
      generalize bs.mapM f = others at ih ⊢
      cases f item with
      | none => exact .none
      | some result =>
          cases ih with
          | none => exact .none
          | some hperm => exact .some (hperm.cons _)
  | swap first second rest =>
      simp only [List.mapM_cons]
      cases f first with
      | none =>
          cases f second <;> exact .none
      | some x =>
          cases f second with
          | none => exact .none
          | some y =>
              cases rest.mapM f with
              | none => exact .none
              | some others => exact .some (.swap _ _ _)
  | @trans as bs cs _ _ ih₁ ih₂ =>
      -- Through the results of the order in the middle, if there are any.
      generalize as.mapM f = first at ih₁ ⊢
      generalize bs.mapM f = second at ih₁ ih₂
      generalize cs.mapM f = third at ih₂ ⊢
      cases ih₁ with
      | none => exact ih₂
      | some hperm =>
          cases ih₂ with
          | some hperm' => exact .some (hperm.trans hperm')

end

namespace Document

/-- The fields of a structure in their order, each by its names and with its default. -/
abbrev Defaults := List (List String × Document)

/-- What is given for a field, under whichever of its names. -/
def given (names : List String) (members : List (String × Document)) : List Document :=
  (members.filter fun member => names.contains member.1).map Prod.snd

/-- The one value that is given, or the default if none is. -/
def only? (default : Document) : List Document → Option Document
  | [] => some default
  | [value] => some value
  | _ => none

/-- The values of a structure's fields, those that are left out included. -/
def filled? (fields : Defaults) (members : List (String × Document)) : Option (List Document) :=
  fields.mapM fun field => only? field.2 (given field.1 members)

/-- No field is given twice, be it under one of its names or under two. -/
def GivesOnce (fields : Defaults) (members : List (String × Document)) : Prop :=
  ∀ field ∈ fields, (given field.1 members).length ≤ 1

/-- One change to how the members of a structure are written. As they may be reordered, it is
enough to change the first one. -/
inductive Respells (fields : Defaults) :
    List (String × Document) → List (String × Document) → Prop
  | reorder {as bs} (perm : as.Perm bs) : Respells fields as bs
  | add {key value rest} (unknown : ∀ field ∈ fields, key ∉ field.1) :
      Respells fields rest ((key, value) :: rest)
  | rename {field key other value rest} (mem : field ∈ fields)
      (hkey : key ∈ field.1) (hother : other ∈ field.1) :
      Respells fields ((key, value) :: rest) ((other, value) :: rest)
  | drop {field key rest} (mem : field ∈ fields) (hkey : key ∈ field.1) :
      Respells fields ((key, field.2) :: rest) rest

/-- No name is a name of two fields. -/
def Apart (fields : Defaults) : Prop :=
  fields.Pairwise fun a b => ∀ key ∈ a.1, key ∉ b.1

section

variable {names : List String} {key : String} {value default : Document}
  {members as bs : List (String × Document)}

theorem given_cons_of_mem (h : key ∈ names) :
    given names ((key, value) :: members) = value :: given names members := by
  have hkey : names.contains (key, value).1 := List.contains_iff_mem.2 h
  unfold given
  rw [List.filter_cons, if_pos hkey, List.map_cons]

theorem given_cons_of_notMem (h : key ∉ names) :
    given names ((key, value) :: members) = given names members := by
  have hkey : ¬ names.contains (key, value).1 := mt List.contains_iff_mem.1 h
  unfold given
  rw [List.filter_cons, if_neg hkey]

theorem given_perm (h : as.Perm bs) (names : List String) :
    (given names as).Perm (given names bs) :=
  (h.filter _).map _

/-- What is given for a field may be taken to stand first. -/
theorem exists_perm_of_mem_given (h : value ∈ given names members) :
    ∃ key ∈ names, ∃ rest, members.Perm ((key, value) :: rest) := by
  obtain ⟨member, hmem, rfl⟩ := List.mem_map.1 h
  obtain ⟨hmem, hkey⟩ := List.mem_filter.1 hmem
  obtain ⟨front, back, rfl⟩ := List.append_of_mem hmem
  exact ⟨member.1, List.contains_iff_mem.1 hkey, front ++ back, List.perm_middle⟩

/-- A value that is given twice is not read, whatever the default is. -/
theorem map_field?_getD (names : List String) (default : Document)
    (members : List (String × Document)) :
    (field? names members).map (·.getD default) = only? default (given names members) := by
  unfold field? given
  generalize members.filter (fun member => names.contains member.1) = listed
  rcases listed with _ | ⟨first, _ | ⟨second, rest⟩⟩
  · rfl
  · rfl
  · rfl

theorem orDefault_eq {standard : α} {read : Document → Option α}
    (h : read default = some standard) (value : Option Document) :
    orDefault value standard read = read (value.getD default) := by
  cases value with
  | none => exact h.symm
  | some document => rfl

theorem only?_eq_none {values : List Document} (h : 1 < values.length) :
    only? default values = none := by
  match values, h with
  | _ :: _ :: _, _ => rfl

theorem only?_eq_of_perm {values others : List Document} (h : values.Perm others) :
    only? default values = only? default others := by
  match values with
  | [] => rw [← h.nil_eq]
  | [value] => rw [← h.singleton_eq]
  | first :: second :: rest =>
      have hothers : 1 < others.length := by
        rw [← h.length_eq, List.length_cons, List.length_cons]
        omega
      rw [only?_eq_none hothers]
      rfl

theorem filled?_eq_of_perm (h : as.Perm bs) (fields : Defaults) :
    filled? fields as = filled? fields bs :=
  mapM_option_congr fun field _ => only?_eq_of_perm (given_perm h field.1)

end

section

variable {fields : Defaults} {field : List String × Document} {value : Document}
  {members as bs : List (String × Document)}

/-- Fields that share a name are one field. -/
theorem Apart.eq_of_mem (h : Apart fields) {other : List String × Document} {key : String}
    (hfield : field ∈ fields) (hother : other ∈ fields)
    (hkey : key ∈ field.1) (hkey' : key ∈ other.1) : field = other := by
  have hsymm : Std.Symm fun a b : List String × Document => ∀ key ∈ a.1, key ∉ b.1 :=
    ⟨fun _ _ hab key hb ha => hab key ha hb⟩
  by_contra hne
  exact h.forall hfield hother hne key hkey hkey'

/-- A change leaves each field what is given for it, or takes away a default. -/
theorem Respells.given_perm (h : Respells fields as bs) (hapart : Apart fields)
    (hfield : field ∈ fields) :
    (given field.1 as).Perm (given field.1 bs) ∨
      (given field.1 as).Perm (field.2 :: given field.1 bs) := by
  -- Only the field whose name is changed or taken away sees the change.
  cases h with
  | reorder hperm => exact .inl (Document.given_perm hperm _)
  | add hunknown =>
      rw [given_cons_of_notMem (hunknown field hfield)]
      exact .inl (.refl _)
  | @rename changed key other value rest hmem hkey hother =>
      apply Or.inl
      by_cases hchanged : key ∈ field.1
      · have hsame : changed = field := hapart.eq_of_mem hmem hfield hkey hchanged
        rw [given_cons_of_mem hchanged, given_cons_of_mem (hsame ▸ hother)]
      · have hother' : other ∉ field.1 := fun hmem' =>
          hchanged (hapart.eq_of_mem hmem hfield hother hmem' ▸ hkey)
        rw [given_cons_of_notMem hchanged, given_cons_of_notMem hother']
  | @drop dropped key rest hmem hkey =>
      by_cases hdropped : key ∈ field.1
      · have hsame : dropped = field := hapart.eq_of_mem hmem hfield hkey hdropped
        rw [given_cons_of_mem hdropped, hsame]
        exact .inr (.refl _)
      · rw [given_cons_of_notMem hdropped]
        exact .inl (.refl _)

theorem Respells.givesOnce (h : Respells fields as bs) (hapart : Apart fields)
    (honce : GivesOnce fields as) : GivesOnce fields bs := by
  intro field hfield
  have hlength := honce field hfield
  rcases h.given_perm hapart hfield with hperm | hperm
  · rwa [hperm.length_eq] at hlength
  · rw [hperm.length_eq, List.length_cons] at hlength
    omega

/-- How often a field is given does not depend on what is given for it. -/
theorem GivesOnce.cons_congr {key : String} (h : GivesOnce fields ((key, value) :: members))
    (other : Document) : GivesOnce fields ((key, other) :: members) := by
  intro field hfield
  have hlength := h field hfield
  by_cases hkey : key ∈ field.1
  · rw [given_cons_of_mem hkey, List.length_cons] at hlength ⊢
    exact hlength
  · rw [given_cons_of_notMem hkey] at hlength ⊢
    exact hlength

/-- Nothing new is given. -/
theorem Respells.mem_given (h : Respells fields as bs) (hapart : Apart fields)
    (hfield : field ∈ fields) (hvalue : value ∈ given field.1 bs) : value ∈ given field.1 as := by
  rcases h.given_perm hapart hfield with hperm | hperm
  · exact hperm.mem_iff.2 hvalue
  · exact hperm.mem_iff.2 (List.mem_cons_of_mem _ hvalue)

theorem Respells.filled?_eq (h : Respells fields as bs) (hapart : Apart fields)
    (honce : GivesOnce fields as) : filled? fields bs = filled? fields as := by
  apply mapM_option_congr
  intro field hfield
  rcases h.given_perm hapart hfield with hperm | hperm
  · exact (only?_eq_of_perm hperm).symm
  · -- As only the default was given, nothing is left.
    have hnil : given field.1 bs = [] := by
      have hlength := honce field hfield
      rw [hperm.length_eq, List.length_cons] at hlength
      exact List.length_eq_zero_iff.1 (by omega)
    rw [hnil] at hperm ⊢
    rw [hperm.eq_singleton]
    rfl

theorem filled?_eq_none (h : ¬ GivesOnce fields members) : filled? fields members = none := by
  obtain ⟨field, hfield, hlength⟩ : ∃ field ∈ fields, ¬ (given field.1 members).length ≤ 1 := by
    simpa only [GivesOnce, not_forall, exists_prop] using h
  exact mapM_eq_none_of_mem hfield (only?_eq_none (Nat.lt_of_not_le hlength))

end

end Document

end CriteriaSql
