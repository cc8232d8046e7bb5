import CriteriaSql.Text.Basic

/-! Cutting at a mark, and putting the pieces together again. -/

namespace CriteriaSql.Text

theorem pieces_eq_splitOn (mark : Char) (cs : List Char) : pieces mark cs = cs.splitOn mark := by
  induction cs with
  | nil => rfl
  | cons c rest ih =>
      rw [pieces, List.splitOn_cons_eq_if_modifyHead, ih]
      by_cases hc : c = mark
      · rw [if_pos hc, if_pos (beq_iff_eq.2 hc)]
      · rw [if_neg hc, if_neg (mt beq_iff_eq.1 hc)]
        cases hpieces : rest.splitOn mark with
        | nil => exact absurd hpieces (List.splitOn_ne_nil mark rest)
        | cons piece others => rfl

section

variable {α : Type} {mark : α}

theorem infix_append_iff {word rest tail : List α} (h : mark ∉ word) :
    mark :: tail <:+: word ++ rest ↔ mark :: tail <:+: rest := by
  induction word with
  | nil => rfl
  | cons c others ih =>
      rw [List.mem_cons, not_or] at h
      rw [List.cons_append, List.infix_cons_iff, List.cons_prefix_cons, ih h.2]
      exact or_iff_right fun hstart => h.1 hstart.1

variable [BEq α]

theorem length_splitOn (cs : List α) : (cs.splitOn mark).length = cs.count mark + 1 := by
  induction cs with
  | nil => rfl
  | cons c rest ih =>
      rw [List.splitOn_cons_eq_if_modifyHead, List.count_cons]
      by_cases hc : c == mark
      · rw [if_pos hc, if_pos hc, List.length_cons, ih]
      · rw [if_neg hc, if_neg hc, List.length_modifyHead, ih, Nat.add_zero]

variable [LawfulBEq α]

/-- Cutting intercalated parts cuts the parts one by one. -/
theorem splitOn_intercalate_eq_flatMap {parts : List (List α)} (hne : parts ≠ []) :
    ([mark].intercalate parts).splitOn mark = parts.flatMap (List.splitOn mark) := by
  induction parts with
  | nil => exact absurd rfl hne
  | cons part rest ih =>
      cases rest with
      | nil => simp
      | cons next others =>
          have hrest := ih (List.cons_ne_nil _ _)
          rw [List.intercalate_cons_cons, List.append_assoc, List.singleton_append,
            List.splitOn_append_cons_self, hrest, ← List.flatMap_cons]

theorem notMem_of_mem_splitOn {cs part : List α} (h : part ∈ cs.splitOn mark) : mark ∉ part := by
  induction cs generalizing part with
  | nil =>
      rw [List.mem_singleton.1 h]
      exact List.not_mem_nil
  | cons c rest ih =>
      rw [List.splitOn_cons_eq_if_modifyHead] at h
      by_cases hc : c == mark
      · rw [if_pos hc] at h
        rcases List.mem_cons.1 h with rfl | h
        · exact List.not_mem_nil
        · exact ih h
      · rw [if_neg hc] at h
        cases hpieces : rest.splitOn mark with
        | nil => exact absurd hpieces (List.splitOn_ne_nil _ _)
        | cons first others =>
            rw [hpieces] at h
            have hfirst : mark ∉ first := ih (hpieces ▸ List.mem_cons_self)
            rcases List.mem_cons.1 h with rfl | h
            · rw [List.mem_cons, not_or]
              exact ⟨fun heq => hc (beq_iff_eq.2 heq.symm), hfirst⟩
            · exact ih (hpieces ▸ List.mem_cons_of_mem _ h)

/-! Cutting at a separator of more than one character. -/

/-- The parts between the occurrences of a separator. They are looked for from the left, and none
begins inside another. -/
def cutAt (separator : List α) : List α → List (List α)
  | [] => [[]]
  | c :: rest =>
      if separator.isPrefixOf (c :: rest) then
        [] :: cutAt separator (rest.drop (separator.length - 1))
      else
        (cutAt separator rest).modifyHead (c :: ·)
termination_by cs => cs.length
decreasing_by
  · rw [List.length_drop, List.length_cons]
    omega
  · exact Nat.lt_succ_self rest.length

section

variable {tail part : List α} (hmark : mark ∉ tail) (hpart : ¬ mark :: tail <:+: part)

include hpart

theorem cutAt_of_not_infix : cutAt (mark :: tail) part = [part] := by
  induction part with
  | nil => rw [cutAt]
  | cons c rest ih =>
      rw [List.infix_cons_iff, not_or] at hpart
      rw [cutAt, if_neg (by simpa using hpart.1), ih hpart.2]
      rfl

include hmark

/-- An occurrence that began in the part would have the mark once more inside it. -/
theorem cutAt_append (rest : List α) :
    cutAt (mark :: tail) (part ++ (mark :: tail) ++ rest) =
      part :: cutAt (mark :: tail) rest := by
  induction part with
  | nil =>
      rw [List.nil_append, List.cons_append, cutAt, if_pos (by simp)]
      simp
  | cons c others ih =>
      rw [List.infix_cons_iff, not_or] at hpart
      have hprefix : ¬ mark :: tail <+: c :: (others ++ (mark :: tail) ++ rest) := by
        rintro ⟨after, hafter⟩
        have hsplit : (mark :: tail) ++ after = (c :: others) ++ ((mark :: tail) ++ rest) := by
          simpa using hafter
        rcases List.append_eq_append_iff.1 hsplit with ⟨more, hmore, -⟩ | ⟨more, hmore, hrest⟩
        · exact hpart.1 ⟨more, hmore.symm⟩
        · cases more with
          | nil => exact hpart.1 ⟨[], by rw [hmore, List.append_nil, List.append_nil]⟩
          | cons first more =>
              obtain rfl := (List.cons.inj hrest).1
              rw [(List.cons.inj hmore).2] at hmark
              exact hmark (List.mem_append_right _ List.mem_cons_self)
      rw [List.cons_append, List.cons_append, cutAt, if_neg (by simpa using hprefix), ih hpart.2]
      rfl

end

/-- Parts in which the separator does not occur are got back from the text they make up. -/
theorem cutAt_intercalate {tail : List α} {parts : List (List α)} (hmark : mark ∉ tail)
    (hparts : ∀ part ∈ parts, ¬ mark :: tail <:+: part) (hne : parts ≠ []) :
    cutAt (mark :: tail) ((mark :: tail).intercalate parts) = parts := by
  induction parts with
  | nil => exact absurd rfl hne
  | cons part rest ih =>
      rw [List.forall_mem_cons] at hparts
      cases rest with
      | nil => rw [List.intercalate_singleton, cutAt_of_not_infix hparts.1]
      | cons next others =>
          rw [List.intercalate_cons_cons, cutAt_append hmark hparts.1,
            ih hparts.2 (List.cons_ne_nil _ _)]

end

end CriteriaSql.Text
