import CriteriaSql.Schema.Describe
import Mathlib.Data.List.DropRight
import Mathlib.Data.List.Forall2

/-!
What trimming does to rows: it cuts the white space off the end of every text that stands in a
column by itself, and leaves everything else where and as it is.
-/

namespace CriteriaSql

namespace Text

/-- The code points with the White_Space property. -/
def whiteSpace : List Nat :=
  [0x09, 0x0A, 0x0B, 0x0C, 0x0D, 0x20, 0x85, 0xA0, 0x1680,
    0x2000, 0x2001, 0x2002, 0x2003, 0x2004, 0x2005, 0x2006, 0x2007, 0x2008, 0x2009, 0x200A,
    0x2028, 0x2029, 0x202F, 0x205F, 0x3000]

theorem isBlank_iff (c : Char) : isBlank c ↔ c.toNat ∈ whiteSpace := by
  simp only [isBlank, whiteSpace, Bool.or_eq_true, Bool.and_eq_true, decide_eq_true_eq, beq_iff_eq,
    List.mem_cons, List.not_mem_nil, or_false]
  omega

/-- The last character, if there is one, is no white space. -/
def EndsSolid (cs : List Char) : Prop :=
  ∀ c, cs.getLast? = some c → c.toNat ∉ whiteSpace

/-- Of all that a text begins with and that does not end in white space, this is the longest. -/
structure IsTrimmed (s t : String) : Prop where
  begins : t.toList <+: s.toList
  solid : EndsSolid t.toList
  longest : ∀ cs, cs <+: s.toList → EndsSolid cs → cs.length ≤ t.toList.length

theorem endsSolid_dropBlankEnd (cs : List Char) : EndsSolid (dropBlankEnd cs) := by
  intro c hlast hspace
  have hne : dropBlankEnd cs ≠ [] := by
    intro hnil
    rw [hnil] at hlast
    cases hlast
  rw [List.getLast?_eq_getLast_of_ne_nil hne, Option.some_inj] at hlast
  have hsolid : ¬ isBlank ((dropBlankEnd cs).getLast hne) := List.rdropWhile_last_not isBlank cs hne
  rw [hlast] at hsolid
  exact hsolid ((isBlank_iff c).2 hspace)

/-- What ends in no white space loses nothing of what it shares with a text that is cut. -/
theorem prefix_dropBlankEnd {cs solid : List Char} (hbegins : solid <+: cs)
    (hsolid : EndsSolid solid) : solid <+: dropBlankEnd cs := by
  -- From the end, because that is where characters are cut off.
  induction cs using List.reverseRecOn with
  | nil => exact hbegins
  | append_singleton rest c ih =>
      by_cases hblank : isBlank c
      · have hcut : dropBlankEnd (rest ++ [c]) = dropBlankEnd rest :=
          List.rdropWhile_concat_pos isBlank rest c hblank
        rw [hcut]
        rcases List.prefix_concat_iff.1 hbegins with rfl | hrest
        · exact absurd ((isBlank_iff c).1 hblank) (hsolid c List.getLast?_concat)
        · exact ih hrest
      · have hkept : dropBlankEnd (rest ++ [c]) = rest ++ [c] :=
          List.rdropWhile_concat_neg isBlank rest c hblank
        rwa [hkept]

theorem isTrimmed_trimEnd (s : String) : IsTrimmed s (trimEnd s) := by
  unfold trimEnd
  constructor
  · rw [String.toList_ofList]
    exact List.rdropWhile_prefix isBlank s.toList
  · rw [String.toList_ofList]
    exact endsSolid_dropBlankEnd s.toList
  · intro cs hbegins hsolid
    rw [String.toList_ofList]
    exact (prefix_dropBlankEnd hbegins hsolid).length_le

theorem isTrimmed_iff {s t : String} : IsTrimmed s t ↔ t = trimEnd s := by
  constructor
  · intro h
    have hcut := isTrimmed_trimEnd s
    have hlength : t.toList.length = (trimEnd s).toList.length :=
      Nat.le_antisymm (hcut.longest _ h.begins h.solid) (h.longest _ hcut.begins hcut.solid)
    have hbegins := List.prefix_of_prefix_length_le h.begins hcut.begins hlength.le
    exact String.toList_inj.1 (hbegins.eq_of_length hlength)
  · rintro rfl
    exact isTrimmed_trimEnd s

theorem trimEnd_trimEnd (s : String) : trimEnd (trimEnd s) = trimEnd s := by
  rw [trimEnd, trimEnd, String.toList_ofList]
  exact congrArg String.ofList (List.rdropWhile_idempotent isBlank s.toList)

end Text

/-- A text is cut. An array or an object is no text, whatever texts there are in it. -/
inductive Json.Trims : Json → Json → Prop
  | text {s t : String} (h : Text.IsTrimmed s t) : Json.Trims (.string s) (.string t)
  | other {value : Json} (h : value.string? = none) : Json.Trims value value

theorem Json.trims_iff {value trimmed : Json} :
    value.Trims trimmed ↔ trimValue value = trimmed := by
  constructor
  · intro h
    cases h with
    | text h =>
        rw [Text.isTrimmed_iff] at h
        rw [h, trimValue]
    | other h =>
        cases value with
        | string s => cases h
        | _ => rfl
  · rintro rfl
    cases value with
    | string s => exact .text (Text.isTrimmed_trimEnd s)
    | _ => exact .other rfl

theorem trimValue_trimValue (value : Json) : trimValue (trimValue value) = trimValue value := by
  cases value with
  | string s => exact congrArg Json.string (Text.trimEnd_trimEnd s)
  | _ => rfl

/-- The same columns in the same order, each with its value trimmed. -/
def Row.Trims (row trimmed : Row) : Prop :=
  List.Forall₂ (fun entry cut => entry.1 = cut.1 ∧ entry.2.Trims cut.2) row.entries trimmed.entries

theorem Row.trims_iff {row trimmed : Row} : row.Trims trimmed ↔ row.map trimValue = trimmed := by
  have hentry : ∀ entry cut : String × Json,
      entry.1 = cut.1 ∧ entry.2.Trims cut.2 ↔ (entry.1, trimValue entry.2) = cut := by
    intro entry cut
    rw [Json.trims_iff, Prod.ext_iff]
  unfold Trims
  simp only [hentry]
  rw [← List.forall₂_map_left_iff, List.forall₂_eq_eq_eq, OrderedMap.ext_iff]
  rfl

/-- Rows stay where they are, and so do the columns of each. A text in a column becomes the longest
of its beginnings that does not end in white space, and no other value changes. Rows are trimmed one
by one, and what is trimmed stays as it is. -/
theorem rows_trimmed (rows : List Row) :
    (∀ trimmed, List.Forall₂ Row.Trims rows trimmed ↔ normalizeRows rows = trimmed) ∧
    (∀ more, normalizeRows (rows ++ more) = normalizeRows rows ++ normalizeRows more) ∧
    normalizeRows (normalizeRows rows) = normalizeRows rows := by
  refine ⟨fun trimmed => ?_, fun more => List.map_append, ?_⟩
  · have htrims : Row.Trims = fun row cut => row.map trimValue = cut :=
      funext₂ fun _ _ => propext Row.trims_iff
    rw [htrims, ← List.forall₂_map_left_iff, List.forall₂_eq_eq_eq]
    rfl
  · unfold normalizeRows
    rw [List.map_map]
    apply List.map_congr_left
    intro row _
    ext1
    show (row.entries.map _).map _ = row.entries.map _
    rw [List.map_map]
    apply List.map_congr_left
    intro entry _
    exact congrArg (entry.1, ·) (trimValue_trimValue entry.2)

/-- Blanks are kept at the front and in an array, and a line separator is a blank too. -/
example :
    normalizeRows [⟨[("name", .string " B\u2028 "), ("tags", .array [.string "x "])], by simp⟩] =
      [⟨[("name", .string " B"), ("tags", .array [.string "x "])], by simp⟩] := by
  rfl

end CriteriaSql
