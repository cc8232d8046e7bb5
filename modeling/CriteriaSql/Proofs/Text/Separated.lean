import CriteriaSql.Text.Basic

/-! Separated parts are intercalated, and what intercalating keeps. -/

namespace CriteriaSql.Text

theorem toList_foldl_followed (separator : String) (parts : List String) (text : String) :
    (parts.foldl (fun text part => text ++ part ++ separator) text).toList =
      text.toList ++ parts.flatMap fun part => part.toList ++ separator.toList := by
  induction parts generalizing text with
  | nil => simp
  | cons part rest ih =>
      rw [List.foldl_cons, ih, List.flatMap_cons]
      simp only [String.toList_append, List.append_assoc]

theorem flatMap_followed (separator part : List α) (parts : List (List α)) :
    ((part :: parts).flatMap fun part => part ++ separator) =
      separator.intercalate (part :: parts) ++ separator := by
  induction parts generalizing part with
  | nil => simp
  | cons next rest ih =>
      rw [List.flatMap_cons, ih, List.intercalate_cons_cons]
      simp only [List.append_assoc]

theorem toList_separated (separator : String) (parts : List String) :
    (separated separator parts).toList =
      separator.toList.intercalate (parts.map String.toList) := by
  unfold separated
  rw [String.toList_ofList, toList_foldl_followed]
  cases parts with
  | nil => simp [dropTail]
  | cons part rest =>
      have h : ((part :: rest).flatMap fun part => part.toList ++ separator.toList) =
          ((part :: rest).map String.toList).flatMap fun part => part ++ separator.toList := by
        rw [List.flatMap_map]
      rw [h, List.map_cons, flatMap_followed, String.toList_empty, List.nil_append,
        dropTail_append]

theorem length_intercalate (separator : List α) (parts : List (List α)) (h : parts ≠ []) :
    (separator.intercalate parts).length + separator.length =
      (parts.flatMap fun part => part ++ separator).length := by
  cases parts with
  | nil => exact absurd rfl h
  | cons part rest => rw [flatMap_followed, List.length_append]

/-- With a mark between them, there are not more parts than characters, save one. -/
theorem length_le_length_intercalate (mark : α) (parts : List (List α)) :
    parts.length ≤ ([mark].intercalate parts).length + 1 := by
  induction parts with
  | nil => exact Nat.zero_le _
  | cons part rest ih =>
      cases rest with
      | nil =>
          rw [List.length_singleton]
          omega
      | cons next others =>
          rw [List.intercalate_cons_cons, List.length_cons, List.length_append,
            List.length_append, List.length_singleton]
          omega

/-- One part more, wherever it stands, makes a text longer. -/
theorem length_separated_lt (separator : String) (hseparator : separator ≠ "")
    {before after : List String} (h : before ++ after ≠ []) (part : String) :
    (separated separator (before ++ after)).length <
      (separated separator (before ++ part :: after)).length := by
  have hpositive : 0 < separator.toList.length := by
    rw [List.length_pos_iff, Ne, String.toList_eq_nil_iff]
    exact hseparator
  have hshort := length_intercalate separator.toList ((before ++ after).map String.toList)
    (by simpa using h)
  have hlong := length_intercalate separator.toList ((before ++ part :: after).map String.toList)
    (by simp)
  rw [← String.length_toList, ← String.length_toList, toList_separated, toList_separated]
  simp only [List.map_append, List.map_cons, List.flatMap_append, List.flatMap_cons,
    List.length_append] at hshort hlong ⊢
  omega

/-- What is made of a list part by part is made of the intercalated parts one by one. -/
theorem intercalate_hom {f : List α → List β} (hnil : f [] = [])
    (happend : ∀ as bs, f (as ++ bs) = f as ++ f bs) (separator : List α)
    (parts : List (List α)) :
    f (separator.intercalate parts) = (f separator).intercalate (parts.map f) := by
  induction parts with
  | nil => simpa using hnil
  | cons part rest ih =>
      cases rest with
      | nil => simp
      | cons next others =>
          rw [List.intercalate_cons_cons, happend, happend, ih]
          simp

theorem map_intercalate (f : α → β) (separator : List α) (parts : List (List α)) :
    (separator.intercalate parts).map f = (separator.map f).intercalate (parts.map (List.map f)) :=
  intercalate_hom rfl (fun _ _ => List.map_append) _ _

theorem nil_intercalate (parts : List (List α)) : [].intercalate parts = parts.flatten := by
  induction parts with
  | nil => rfl
  | cons part rest ih =>
      cases rest with
      | nil => simp
      | cons next others => rw [List.intercalate_cons_cons, ih]; simp

/-- One part among others, with what comes before it and what comes after. -/
theorem exists_intercalate_eq (separator : List α) (before after : List (List α)) :
    ∃ first last, ∀ part,
      separator.intercalate (before ++ part :: after) = first ++ part ++ last := by
  induction before with
  | nil =>
      cases after with
      | nil => exact ⟨[], [], fun part => by simp⟩
      | cons next rest =>
          refine ⟨[], separator ++ separator.intercalate (next :: rest), fun part => ?_⟩
          rw [List.nil_append, List.intercalate_cons_cons, List.nil_append, List.append_assoc]
  | cons earlier rest ih =>
      obtain ⟨first, last, hparts⟩ := ih
      refine ⟨earlier ++ separator ++ first, last, fun part => ?_⟩
      rw [List.cons_append, List.intercalate_cons_of_ne_nil (by simp), hparts part]
      simp only [List.append_assoc]

/-- The same for parts that are rendered from items. -/
theorem exists_separated_eq (separator : String) (render : α → String) (before after : List α) :
    ∃ first last : String, ∀ item,
      separated separator ((before ++ item :: after).map render) =
        first ++ render item ++ last := by
  obtain ⟨first, last, hparts⟩ := exists_intercalate_eq separator.toList
    ((before.map render).map String.toList) ((after.map render).map String.toList)
  refine ⟨String.ofList first, String.ofList last, fun item => ?_⟩
  rw [← String.toList_inj, toList_separated]
  simp only [List.map_append, List.map_cons, String.toList_append, String.toList_ofList]
  exact hparts (render item).toList

/-- A property of lists that appending keeps holds of intercalated parts. -/
theorem intercalate_closed {P : List α → Prop} (hnil : P [])
    (happend : ∀ {as bs}, P as → P bs → P (as ++ bs)) {separator : List α}
    (hseparator : P separator) {parts : List (List α)} (hparts : ∀ part ∈ parts, P part) :
    P (separator.intercalate parts) := by
  induction parts with
  | nil => exact hnil
  | cons part rest ih =>
      have hpart := hparts part List.mem_cons_self
      have hrest := ih fun p hp => hparts p (List.mem_cons_of_mem _ hp)
      cases rest with
      | nil => rwa [List.intercalate_singleton]
      | cons next others =>
          rw [List.intercalate_cons_cons]
          exact happend (happend hpart hseparator) hrest

end CriteriaSql.Text
