import CriteriaSql.Proofs.Sql.EqualCriteria
import Mathlib.Data.List.Infix

/-!
Patterns with percent signs in them. A like map takes three of them in a row for one that is no
wildcard, and reads from the left; the comparator writes what it is given.
-/

namespace CriteriaSql

open Sql (Piece)

/-! Three percent signs in a row. -/

def tripled : List Char :=
  ['%', '%', '%']

theorem decodePercent_tripled (rest : List Char) :
    decodePercent (tripled ++ rest) = '\\' :: '%' :: decodePercent rest := by
  show decodePercent ('%' :: '%' :: '%' :: rest) = _
  rw [decodePercent]

theorem decodePercent_kept {c : Char} {rest : List Char} (h : ¬ tripled <+: c :: rest) :
    decodePercent (c :: rest) = c :: decodePercent rest := by
  rw [decodePercent]
  rintro others rfl rfl
  exact h ⟨others, rfl⟩

/-- Induction along the reading from the left. -/
@[elab_as_elim] theorem tripled_induct {motive : List Char → Prop} (nil : motive [])
    (tripled : ∀ rest, motive rest → motive (tripled ++ rest))
    (kept : ∀ c rest, ¬ CriteriaSql.tripled <+: c :: rest → motive rest → motive (c :: rest))
    (cs : List Char) : motive cs := by
  induction cs using decodePercent.induct with
  | case1 rest ih => exact tripled rest ih
  | case2 c rest hrest ih =>
      refine kept c rest ?_ ih
      rintro ⟨others, heq⟩
      obtain ⟨rfl, rfl⟩ := List.cons.inj heq
      exact hrest others rfl rfl
  | case3 => exact nil

/-- Decoding leaves alone exactly the texts in which no three percent signs are in a row. -/
theorem decodePercent_eq_self_iff {cs : List Char} :
    decodePercent cs = cs ↔ ¬ tripled <:+: cs := by
  induction cs using tripled_induct with
  | nil => simp [decodePercent, tripled]
  | tripled rest _ =>
      have htripled : tripled <+: tripled ++ rest := List.prefix_append tripled rest
      constructor
      · intro h
        -- What is written first is a backslash, where the text has a percent sign.
        have hhead := (decodePercent_tripled rest).symm.trans h
        exact absurd (List.cons.inj hhead).1 (by decide)
      · intro h
        exact absurd htripled.isInfix h
  | kept c rest hfirst ih =>
      rw [decodePercent_kept hfirst, List.infix_cons_iff, not_or, List.cons.injEq, ih]
      exact ⟨fun h => ⟨hfirst, h.2⟩, fun h => ⟨rfl, h.2⟩⟩

/-! Texts between quotes. -/

theorem tripled_infix_blanked_iff {cs : List Char} :
    tripled <:+: cs.map blanked ↔ tripled <:+: cs := by
  constructor
  · intro h
    obtain ⟨part, hpart, hmap⟩ := List.infix_map_iff.1 h
    rwa [eq_of_map_blanked hmap.symm (by decide)] at hpart
  · exact fun h => h.map blanked

/-- Double quotes are blanked alike before decoding and after. -/
theorem decodePercent_blanked (cs : List Char) :
    decodePercent (cs.map blanked) = (decodePercent cs).map blanked := by
  induction cs using tripled_induct with
  | nil => rfl
  | tripled rest ih =>
      have hdecoded := decodePercent_tripled (rest.map blanked)
      rw [ih] at hdecoded
      rw [decodePercent_tripled]
      exact hdecoded
  | kept c rest hfirst ih =>
      have hblanked : ¬ tripled <+: blanked c :: rest.map blanked := by
        intro h
        rw [← List.map_cons] at h
        obtain ⟨part, hpart, hmap⟩ := List.prefix_map_iff.1 h
        rw [eq_of_map_blanked hmap.symm (by decide)] at hpart
        exact hfirst hpart
      rw [List.map_cons, decodePercent_kept hblanked, decodePercent_kept hfirst, ih, List.map_cons]

/-- A text with its percent signs decoded. -/
def decoded (s : String) : String :=
  String.ofList (decodePercent s.toList)

theorem quote_decoded_eq_iff {s : String} :
    quote (decoded s) = quote s ↔ ¬ tripled <:+: s.toList := by
  rw [← String.toList_inj, toList_quote, toList_quote, Sql.literal_chars_eq_iff, decoded,
    String.toList_ofList, ← decodePercent_blanked, decodePercent_eq_self_iff,
    tripled_infix_blanked_iff]

/-! Predicates of a single clause. -/

theorem separated_singleton (separator part : String) : Text.separated separator [part] = part := by
  rw [← String.toList_inj, Text.toList_separated]
  simp

theorem Predicate.sql_singleton (clause : Clause) : Predicate.sql [clause] = clause.sql := by
  rw [Predicate.sql, clauseSqls_eq_mapM, List.mapM_cons]
  cases clause.sql with
  | error fault => rfl
  | ok text => exact congrArg Except.ok (separated_singleton _ text)

theorem Clause.sql_like_singleton (column : String) (pattern : Literal) :
    Clause.sql (.like [(column, pattern)]) = likeSql column pattern := by
  rw [Clause.sql, List.mapM_cons]
  cases likeSql column pattern with
  | error fault => rfl
  | ok text => exact congrArg Except.ok (separated_singleton _ text)

/-! The two spellings. -/

theorem Predicate.sql_like_text (column s : String) :
    Predicate.sql (Predicate.like [] column (.text s)) =
      .ok (column ++ " LIKE " ++ quote (decoded s)) := by
  have htext : String.ofList (decodePercent (Literal.text s).prepared.toList) =
      quote (decoded s) := by
    rw [← String.toList_inj, String.toList_ofList, Literal.toList_decoded, toList_quote, decoded,
      String.toList_ofList, ← decodePercent_blanked]
    exact Sql.written_singleton _
  rw [← htext]
  exact (sql_singleton _).trans (Clause.sql_like_singleton column (.text s))

theorem Predicate.sql_compare_like_text (column s : String) :
    Predicate.sql (Predicate.compare [] column .like (.text s)) =
      .ok (column ++ " LIKE " ++ quote s) := by
  have htext : Comparator.like.sql column (.text s) = column ++ " LIKE " ++ quote s := by
    rw [← String.toList_inj, Comparator.toList_sql, Comparator.pieces, wildcardPieces]
    simp [toList_quote, Literal.pattern, Literal.content?, Literal.raw?]
  rw [← htext, ← separated_singleton " AND " (Comparator.like.sql column (.text s))]
  exact sql_singleton _

/-- A text is a pattern in either spelling. The like map decodes its percent signs and the
comparator does not, and that is all the difference there is. -/
theorem like_spellings (column s : String) :
    Predicate.sql (Predicate.like [] column (.text s)) =
      .ok (column ++ " LIKE " ++ quote (decoded s)) ∧
    Predicate.sql (Predicate.compare [] column .like (.text s)) =
      .ok (column ++ " LIKE " ++ quote s) ∧
    (Predicate.sql (Predicate.like [] column (.text s)) =
        Predicate.sql (Predicate.compare [] column .like (.text s)) ↔
      ¬ ['%', '%', '%'] <:+: s.toList) := by
  have hmap := Predicate.sql_like_text column s
  have hcomparator := Predicate.sql_compare_like_text column s
  refine ⟨hmap, hcomparator, ?_⟩
  rw [hmap, hcomparator, Except.ok.injEq, String.append_right_inj]
  exact quote_decoded_eq_iff

end CriteriaSql
