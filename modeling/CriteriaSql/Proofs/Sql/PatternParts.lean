import CriteriaSql.Proofs.Sql.LikePatterns

/-!
Patterns as they are meant, and how a like map reads them. One percent sign is a wildcard and three
are none, so a run of percent signs may be meant in several ways; it is read in one of them.
-/

namespace CriteriaSql

/-- What a pattern is made of. Quotes are not among its characters here. -/
inductive PatternPart where
  | wildcard
  /-- A percent sign that is no wildcard. -/
  | percent
  | char (c : Char) (hc : c ∉ ['%', '\'', '"'])

namespace PatternPart

/-- How a part is given to a like map. -/
def given : PatternPart → List Char
  | wildcard => ['%']
  | percent => ['%', '%', '%']
  | char c _ => [c]

/-- How a part stands in the literal of a statement. -/
def meant : PatternPart → List Char
  | wildcard => ['%']
  | percent => ['\\', '%']
  | char c _ => [c]

/-- No wildcard comes right before a percent sign, and no three wildcards are in a row. -/
def Legible (parts : List PatternPart) : Prop :=
  ¬ [wildcard, percent] <:+: parts ∧ ¬ [wildcard, wildcard, wildcard] <:+: parts

variable {part : PatternPart} {parts others rest : List PatternPart}

theorem ne_percent_of_char {c : Char} (hc : c ∉ ['%', '\'', '"']) : c ≠ '%' := by
  rintro rfl
  exact hc (by decide)

/-! Which lists are legible. -/

theorem legible_nil : Legible [] := by
  simp [Legible]

/-- Only wildcards can be in the way of what comes after them. -/
theorem legible_cons_iff (h : part ≠ wildcard) : Legible (part :: rest) ↔ Legible rest := by
  have hfirst : ∀ others, ¬ wildcard :: others <+: part :: rest := by
    intro others hprefix
    exact h (List.cons_prefix_cons.1 hprefix).1.symm
  unfold Legible
  rw [List.infix_cons_iff, List.infix_cons_iff, or_iff_right (hfirst _), or_iff_right (hfirst _)]

theorem percent_given_iff :
    ['%'] <+: rest.flatMap given ↔ [wildcard] <+: rest ∨ [percent] <+: rest := by
  cases rest with
  | nil => simp
  | cons part rest =>
      cases part with
      | wildcard => simp [given]
      | percent => simp [given]
      | char c hc => simp [given, (ne_percent_of_char hc).symm]

theorem two_percent_given_iff : ['%', '%'] <+: rest.flatMap given ↔
    [percent] <+: rest ∨ [wildcard, wildcard] <+: rest ∨ [wildcard, percent] <+: rest := by
  cases rest with
  | nil => simp
  | cons part rest =>
      cases part with
      | wildcard =>
          have hnext := @percent_given_iff rest
          simpa [given] using hnext
      | percent => simp [given]
      | char c hc => simp [given, (ne_percent_of_char hc).symm]

/-- A wildcard may come before a list unless two percent signs are given at its front. -/
theorem legible_wildcard_iff :
    Legible (wildcard :: rest) ↔ ¬ ['%', '%'] <+: rest.flatMap given ∧ Legible rest := by
  have hmixed : [wildcard, percent] <+: rest → [wildcard, percent] <:+: rest :=
    fun h => h.isInfix
  rw [two_percent_given_iff]
  unfold Legible
  simp only [List.infix_cons_iff, List.cons_prefix_cons, true_and, not_or]
  tauto

theorem legible_of_cons (h : Legible (part :: rest)) : Legible rest :=
  ⟨fun hmixed => h.1 (hmixed.trans (List.suffix_cons part rest).isInfix),
    fun hrow => h.2 (hrow.trans (List.suffix_cons part rest).isInfix)⟩

/-! Legible lists are read as they are meant. -/

theorem decodePercent_given_iff :
    decodePercent (parts.flatMap given) = parts.flatMap meant ↔ Legible parts := by
  induction parts with
  | nil => simp [decodePercent, legible_nil]
  | cons part rest ih =>
      cases part with
      | wildcard =>
          show decodePercent ('%' :: rest.flatMap given) = '%' :: rest.flatMap meant ↔ _
          rw [legible_wildcard_iff]
          by_cases htwo : ['%', '%'] <+: rest.flatMap given
          · -- The wildcard is read as the first sign of a percent sign, so a backslash comes first.
            obtain ⟨after, hafter⟩ := htwo
            have hdecoded : decodePercent ('%' :: rest.flatMap given) =
                '\\' :: '%' :: decodePercent after := by
              rw [← hafter]
              exact decodePercent_tripled after
            rw [hdecoded]
            constructor
            · intro h
              exact absurd (List.cons.inj h).1 (by decide)
            · intro h
              exact absurd ⟨after, hafter⟩ h.1
          · -- Fewer than three signs in a row, and so the wildcard stays one.
            have hkept : ¬ tripled <+: '%' :: rest.flatMap given := by
              intro h
              exact htwo (List.cons_prefix_cons.1 h).2
            rw [decodePercent_kept hkept, List.cons.injEq, ih]
            exact ⟨fun h => ⟨htwo, h.2⟩, fun h => ⟨rfl, h.2⟩⟩
      | percent =>
          have hdecoded := decodePercent_tripled (rest.flatMap given)
          show decodePercent (tripled ++ rest.flatMap given) = '\\' :: '%' :: rest.flatMap meant ↔ _
          rw [hdecoded, legible_cons_iff (by simp), ← ih]
          simp
      | char c hc =>
          have hdecoded := decodePercent_cons (ne_percent_of_char hc) (rest.flatMap given)
          show decodePercent (c :: rest.flatMap given) = c :: rest.flatMap meant ↔ _
          rw [hdecoded, legible_cons_iff (by simp), ← ih]
          simp

/-! Each text is given by one legible list. -/

theorem exists_legible_wildcard (h : Legible parts) :
    ∃ others, Legible others ∧ others.flatMap given = '%' :: parts.flatMap given := by
  induction parts with
  | nil => exact ⟨[wildcard], legible_wildcard_iff.2 ⟨by simp, legible_nil⟩, rfl⟩
  | cons part rest ih =>
      by_cases htwo : ['%', '%'] <+: (part :: rest).flatMap given
      · rcases two_percent_given_iff.1 htwo with hpercent | hwildcards | hmixed
        · -- The sign is moved behind a percent sign, which is given by the same signs.
          obtain ⟨rfl, -⟩ := List.cons_prefix_cons.1 hpercent
          obtain ⟨others, hlegible, hgiven⟩ := ih (legible_of_cons h)
          refine ⟨percent :: others, (legible_cons_iff (by simp)).2 hlegible, ?_⟩
          rw [List.flatMap_cons, hgiven]
          rfl
        · -- It is the third wildcard in a row.
          obtain ⟨after, hafter⟩ := hwildcards
          rw [← hafter] at h ⊢
          have hlegible := legible_of_cons (legible_of_cons h)
          exact ⟨percent :: after, (legible_cons_iff (by simp)).2 hlegible, rfl⟩
        · exact absurd hmixed.isInfix h.1
      · exact ⟨wildcard :: part :: rest, legible_wildcard_iff.2 ⟨htwo, h⟩, rfl⟩

theorem exists_legible (parts : List PatternPart) :
    ∃ others, Legible others ∧ others.flatMap given = parts.flatMap given := by
  induction parts with
  | nil => exact ⟨[], legible_nil, rfl⟩
  | cons part rest ih =>
      obtain ⟨others, hlegible, hgiven⟩ := ih
      cases part with
      | wildcard =>
          obtain ⟨shifted, hshifted, hfirst⟩ := exists_legible_wildcard hlegible
          refine ⟨shifted, hshifted, ?_⟩
          rw [hfirst, hgiven]
          rfl
      | percent =>
          refine ⟨percent :: others, (legible_cons_iff (by simp)).2 hlegible, ?_⟩
          rw [List.flatMap_cons, hgiven, List.flatMap_cons]
      | char c hc =>
          refine ⟨char c hc :: others, (legible_cons_iff (by simp)).2 hlegible, ?_⟩
          rw [List.flatMap_cons, hgiven, List.flatMap_cons]

theorem wildcard_given_ne (h : Legible (wildcard :: rest)) :
    (wildcard :: rest).flatMap given ≠ (percent :: others).flatMap given := by
  intro heq
  have hrest : rest.flatMap given = '%' :: '%' :: others.flatMap given := (List.cons.inj heq).2
  have htwo : ['%', '%'] <+: rest.flatMap given := hrest ▸ List.prefix_append ['%', '%'] _
  exact (legible_wildcard_iff.1 h).1 htwo

/-- The first part of a legible list is told from the text that it is given by. -/
theorem first_eq_of_given {other : PatternPart} (hparts : Legible (part :: rest))
    (hothers : Legible (other :: others))
    (h : (part :: rest).flatMap given = (other :: others).flatMap given) : part = other := by
  cases part with
  | wildcard =>
      cases other with
      | wildcard => rfl
      | percent => exact absurd h (wildcard_given_ne hparts)
      | char c hc => exact absurd (List.cons.inj h).1.symm (ne_percent_of_char hc)
  | percent =>
      cases other with
      | wildcard => exact absurd h.symm (wildcard_given_ne hothers)
      | percent => rfl
      | char c hc => exact absurd (List.cons.inj h).1.symm (ne_percent_of_char hc)
  | char c hc =>
      cases other with
      | wildcard | percent => exact absurd (List.cons.inj h).1 (ne_percent_of_char hc)
      | char d hd =>
          have hchar : c = d := (List.cons.inj h).1
          subst hchar
          rfl

theorem eq_of_legible (hparts : Legible parts) (hothers : Legible others)
    (h : parts.flatMap given = others.flatMap given) : parts = others := by
  induction parts generalizing others with
  | nil =>
      cases others with
      | nil => rfl
      | cons other others => cases other <;> cases h
  | cons part rest ih =>
      cases others with
      | nil => cases part <;> cases h
      | cons other others =>
          have hfirst := first_eq_of_given hparts hothers h
          subst hfirst
          rw [List.flatMap_cons, List.flatMap_cons] at h
          have hrest := List.append_cancel_left h
          rw [ih (legible_of_cons hparts) (legible_of_cons hothers) hrest]

/-! The text of a condition. -/

theorem notMem_quotes_of_mem_meant {c : Char} (h : c ∈ parts.flatMap meant) :
    c ∉ ['\'', '"'] := by
  obtain ⟨part, -, hpart⟩ := List.mem_flatMap.1 h
  cases part with
  | wildcard =>
      rw [List.mem_singleton.1 hpart]
      decide
  | percent =>
      rcases List.mem_pair.1 hpart with rfl | rfl <;> decide
  | char d hd =>
      rw [List.mem_singleton.1 hpart]
      exact fun hmem => hd (List.mem_cons_of_mem _ hmem)

theorem quote_meant (parts : List PatternPart) :
    quote (String.ofList (parts.flatMap meant)) =
      "'" ++ String.ofList (parts.flatMap meant) ++ "'" := by
  have hsingle : '\'' ∉ parts.flatMap meant := fun h => notMem_quotes_of_mem_meant h (by decide)
  have hblanked : (parts.flatMap meant).map blanked = parts.flatMap meant := by
    rw [List.map_congr_left (g := id) fun c hc => ?_, List.map_id]
    have hdouble : c ≠ '"' := fun h => notMem_quotes_of_mem_meant hc (by simp [h])
    exact if_neg hdouble
  rw [← String.toList_inj, toList_quote, String.toList_ofList, hblanked, Sql.Piece.chars,
    flatMap_doubled hsingle]
  simp

end PatternPart

open PatternPart

/-- A pattern in a like map, as its parts are given. -/
def likePattern (column : String) (parts : List PatternPart) : Predicate :=
  Predicate.like [] column (.text (String.ofList (parts.flatMap given)))

/-- A condition on a column, with the parts of its pattern as they are meant. -/
def patternCondition (column : String) (parts : List PatternPart) : String :=
  column ++ " LIKE '" ++ String.ofList (parts.flatMap meant) ++ "'"

theorem patternCondition_eq_iff {column : String} {parts others : List PatternPart} :
    patternCondition column parts = patternCondition column others ↔
      parts.flatMap meant = others.flatMap meant := by
  unfold patternCondition
  rw [String.append_left_inj, String.append_right_inj, String.ofList_inj]

theorem sql_likePattern {parts read : List PatternPart} (hlegible : Legible read)
    (hgiven : read.flatMap given = parts.flatMap given) (column : String) :
    Predicate.sql (likePattern column parts) = .ok (patternCondition column read) := by
  have hdecoded : decoded (String.ofList (parts.flatMap given)) =
      String.ofList (read.flatMap meant) := by
    rw [decoded, String.toList_ofList, ← hgiven, decodePercent_given_iff.2 hlegible]
  have hcondition : column ++ " LIKE " ++ quote (String.ofList (read.flatMap meant)) =
      patternCondition column read := by
    rw [quote_meant, patternCondition, ← String.toList_inj]
    simp
  rw [likePattern, Predicate.sql_like_text, hdecoded, hcondition]

/-- A pattern is read as it is meant exactly if no wildcard comes right before a percent sign and no
three wildcards are in a row. Any other is given by the same text as just one of these, and is read
as that one. -/
theorem like_pattern_reading (column : String) (parts : List PatternPart) :
    (Predicate.sql (likePattern column parts) = .ok (patternCondition column parts) ↔
      Legible parts) ∧
    ∃! read, Legible read ∧ read.flatMap given = parts.flatMap given ∧
      Predicate.sql (likePattern column parts) = .ok (patternCondition column read) := by
  obtain ⟨read, hlegible, hgiven⟩ := exists_legible parts
  have hsql := sql_likePattern hlegible hgiven column
  refine ⟨?_, read, ⟨hlegible, hgiven, hsql⟩, ?_⟩
  · have hmeant := decodePercent_given_iff.2 hlegible
    rw [hsql, Except.ok.injEq, patternCondition_eq_iff, ← hmeant, hgiven, decodePercent_given_iff]
  · rintro other ⟨hother, hsame, -⟩
    exact eq_of_legible hother hlegible (hsame.trans hgiven.symm)

/-- A wildcard right before a percent sign is read as one after it. -/
theorem like_pattern_swapped :
    Predicate.sql (likePattern "name" [wildcard, percent]) = .ok "name LIKE '\\%%'" ∧
      patternCondition "name" [wildcard, percent] = "name LIKE '%\\%'" ∧
      Predicate.sql (likePattern "name" [wildcard, percent]) ≠
        .ok (patternCondition "name" [wildcard, percent]) := by
  refine ⟨rfl, rfl, fun h => ?_⟩
  have htexts : "name LIKE '\\%%'" = "name LIKE '%\\%'" := Except.ok.inj h
  exact absurd htexts (by decide)

end CriteriaSql
