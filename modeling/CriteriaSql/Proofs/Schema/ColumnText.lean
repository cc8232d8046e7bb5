import CriteriaSql.Proofs.Json.Reading
import CriteriaSql.Schema.Document

/-!
Columns as they are printed. A column is read again from its own text, and from the text of the
array of its fields.
-/

namespace CriteriaSql

theorem Document.ofItems_eq_map (items : List Json) : ofItems items = items.map ofJson := by
  induction items with
  | nil => rfl
  | cons item rest ih => rw [ofItems, ih, List.map_cons]

theorem Document.ofMembers_eq_map (members : List (String × Json)) :
    ofMembers members = members.map fun member => (member.1, ofJson member.2) := by
  induction members with
  | nil => rfl
  | cons member rest ih => rw [ofMembers, ih, List.map_cons]

namespace Json

def memberText (member : String × Json) : List Char :=
  (quoted member.1).toList ++ ':' :: member.2.compact.toList

theorem toList_compact_array (items : List Json) :
    (array items).compact.toList =
      '[' :: ([','].intercalate (items.map fun item => item.compact.toList) ++ [']']) := by
  have hitems : compactItems items = items.map compact := by
    induction items with
    | nil => rfl
    | cons item rest ih => rw [compactItems, ih, List.map_cons]
  rw [compact, hitems, String.toList_append, String.toList_append, String.toList_intercalate,
    List.map_map]
  rfl

theorem toList_compact_object (members : List (String × Json)) :
    (object members).compact.toList =
      '\x7b' :: ([','].intercalate (members.map memberText) ++ ['\x7d']) := by
  have hmembers : (compactMembers members).map String.toList = members.map memberText := by
    induction members with
    | nil => rfl
    | cons member rest ih =>
        rw [compactMembers, List.map_cons, ih, List.map_cons, String.toList_append,
          String.toList_append, memberText, List.append_assoc]
        rfl
  rw [compact, String.toList_append, String.toList_append, String.toList_intercalate, hmembers]
  rfl

end Json

namespace Column

open Json

theorem readMember_memberText {member : String × Json} (hkey : isFieldName member.1)
    (hvalue : member.2.IsPlain) (rest : List Char) :
    readMember (memberText member ++ rest) = some ((member.1, .ofJson member.2), rest) := by
  have hstart : skipSpace (memberText member ++ rest) = memberText member ++ rest := by
    rw [memberText, toList_quoted]
    rfl
  rw [readMember, hstart, memberText, List.append_assoc, readString_quoted]
  show (if isFieldName member.1 then
    (read maxDepth (member.2.compact.toList ++ rest) >>= _) else _) = _
  rw [if_pos hkey, read_compact hvalue]
  rfl

theorem readDocument_object {members : List (String × Json)} (hne : members ≠ [])
    (h : ∀ member ∈ members, isFieldName member.1 ∧ member.2.IsPlain) :
    readDocument (object members).compact.toList = some (.ofJson (.object members), []) := by
  have hstart : ∀ member ∈ members, ∃ c cs,
      memberText member = c :: cs ∧ isSpace c = false ∧ c ≠ '\x7d' := by
    intro member _
    rw [memberText, toList_quoted]
    exact ⟨'"', _, rfl, by decide, by decide⟩
  have hwithin : itemsWithin '\x7d' readMember
      ([','].intercalate (members.map memberText) ++ ['\x7d']) =
      some (members.map fun member => (member.1, .ofJson member.2), []) :=
    itemsWithin_intercalate (by decide) (by decide) hne
      (fun member hmem => readMember_memberText (h member hmem).1 (h member hmem).2) hstart []
  rw [toList_compact_object, Document.ofJson, Document.ofMembers_eq_map, readDocument]
  show (itemsWithin '\x7d' readMember _ >>= _) = _
  rw [hwithin]
  rfl

theorem readDocument_array {items : List Json} (hne : items ≠ [])
    (h : ∀ item ∈ items, item.IsPlain) :
    readDocument (array items).compact.toList = some (.ofJson (.array items), []) := by
  have hstart : ∀ item ∈ items, ∃ c cs,
      item.compact.toList = c :: cs ∧ isSpace c = false ∧ c ≠ ']' := by
    intro item hmem
    obtain ⟨c, cs, htext, hc⟩ := compact_start (h item hmem)
    have hfirst : isSpace c = false ∧ c ≠ ']' := by
      simp only [List.mem_cons, List.not_mem_nil, or_false] at hc
      rcases hc with rfl | rfl | rfl | rfl <;> decide
    exact ⟨c, cs, htext, hfirst⟩
  have hwithin : itemsWithin ']' (read maxDepth)
      ([','].intercalate (items.map fun item => item.compact.toList) ++ [']']) =
      some (items.map id, []) :=
    itemsWithin_intercalate (by decide) (by decide) hne
      (fun item hmem => read_compact (h item hmem) maxDepth) hstart []
  rw [toList_compact_array, Document.ofJson, Document.ofItems_eq_map, readDocument]
  show (itemsWithin ']' (read maxDepth) _ >>= _) = _
  rw [hwithin, List.map_id]
  rfl

section

variable (column : Column)

/-- The values of the fields in their order, without the names. -/
def values : List Json :=
  (column.toJson.members?.getD []).map Prod.snd

theorem ofDocument?_toJson : ofDocument? (.ofJson column.toJson) = some column := by
  obtain ⟨declaredType, _, _, _, _, _⟩ := column
  cases declaredType <;> rfl

theorem ofDocument?_values : ofDocument? (.ofJson (.array column.values)) = some column := by
  obtain ⟨declaredType, _, _, _, _, _⟩ := column
  cases declaredType <;> rfl

theorem ofText?_toJson : ofText? column.toJson.compact = some column := by
  have hread : readDocument column.toJson.compact.toList = some (.ofJson column.toJson, []) := by
    apply readDocument_object (List.cons_ne_nil _ _)
    obtain ⟨declaredType, _, _, _, _, _⟩ := column
    cases declaredType <;> simp [isFieldName, fields, IsPlain]
  rw [ofText?, hread]
  exact column.ofDocument?_toJson

theorem ofText?_values : ofText? (Json.array column.values).compact = some column := by
  have hread : readDocument (Json.array column.values).compact.toList =
      some (.ofJson (.array column.values), []) := by
    apply readDocument_array (List.cons_ne_nil _ _)
    obtain ⟨declaredType, _, _, _, _, _⟩ := column
    cases declaredType <;> simp [IsPlain]
  rw [ofText?, hread]
  exact column.ofDocument?_values

end

end Column

end CriteriaSql
