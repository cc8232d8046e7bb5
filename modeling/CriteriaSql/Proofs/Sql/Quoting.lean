import CriteriaSql.Proofs.Sql.Rendering

/-!
Texts between single quotes. A reader gets back the text that was quoted, with spaces for its
double quotes, so texts that are written alike differ in these only.
-/

namespace CriteriaSql

open Sql (Piece pieces?)

/-! Single quotes in pairs. -/

namespace Sql

/-- Where single quotes stand in a row, and no more of them before or after, their number is
even. -/
def QuotesPaired (cs : List Char) : Prop :=
  ∀ before n after, cs = before ++ (List.replicate n '\'' ++ after) →
    before.getLast? ≠ some '\'' → after.head? ≠ some '\'' → 2 ∣ n

namespace QuotesPaired

variable {cs : List Char}

theorem nil : QuotesPaired [] := by
  intro before n after hsplit _ _
  cases n with
  | zero => exact Nat.dvd_zero 2
  | succ n => simp at hsplit

theorem cons {c : Char} (hc : c ≠ '\'') (h : QuotesPaired cs) : QuotesPaired (c :: cs) := by
  intro before n after hsplit hbefore hafter
  cases before with
  | nil =>
      -- A row at the front would begin with the character.
      cases n with
      | zero => exact Nat.dvd_zero 2
      | succ n => exact absurd (List.cons.inj hsplit).1 hc
  | cons d rest =>
      refine h rest n after (List.cons.inj hsplit).2 (fun hrest => hbefore ?_) hafter
      rw [List.getLast?_cons, hrest, Option.getD_some]

theorem pair (h : QuotesPaired cs) : QuotesPaired ('\'' :: '\'' :: cs) := by
  intro before n after hsplit hbefore hafter
  match before, n with
  | [], 0 => exact Nat.dvd_zero 2
  | [], 1 =>
      -- The row would go on with the second quote of the pair.
      obtain rfl := (List.cons.inj hsplit).2
      exact absurd rfl hafter
  | [], n + 2 =>
      have hrest : cs = [] ++ (List.replicate n '\'' ++ after) :=
        (List.cons.inj (List.cons.inj hsplit).2).2
      exact (Nat.dvd_add_left (Nat.dvd_refl 2)).2 (h [] n after hrest (by simp) hafter)
  | [d], n =>
      obtain rfl := (List.cons.inj hsplit).1
      exact absurd rfl hbefore
  | d :: e :: rest, n =>
      have hrest := (List.cons.inj (List.cons.inj hsplit).2).2
      refine h rest n after hrest (fun hlast => hbefore ?_) hafter
      rw [List.getLast?_cons, List.getLast?_cons, hlast, Option.getD_some, Option.getD_some]

end QuotesPaired

namespace Piece

theorem quotesPaired_doubled (cs : List Char) : QuotesPaired (cs.flatMap doubled) := by
  induction cs with
  | nil => exact .nil
  | cons c rest ih =>
      rw [List.flatMap_cons, doubled]
      by_cases hc : c = '\''
      · rw [if_pos hc]
        exact ih.pair
      · rw [if_neg hc]
        exact ih.cons hc

theorem count_doubled (cs : List Char) :
    (cs.flatMap doubled).count '\'' = 2 * cs.count '\'' := by
  induction cs with
  | nil => rfl
  | cons c rest ih =>
      rw [List.flatMap_cons, List.count_append, ih, doubled]
      by_cases hc : c = '\''
      · have htwo : ['\'', '\''].count '\'' = 2 := by decide
        rw [if_pos hc, htwo, hc, List.count_cons_self, Nat.mul_succ, Nat.add_comm]
      · rw [if_neg hc, List.count_cons_of_ne hc, List.count_nil, List.count_cons_of_ne hc,
          Nat.zero_add]

theorem mem_flatMap_doubled {c : Char} {cs : List Char} : c ∈ cs.flatMap doubled ↔ c ∈ cs := by
  have hdoubled : ∀ d, c ∈ doubled d ↔ c = d := by
    intro d
    by_cases hd : d = '\''
    · rw [doubled, if_pos hd, hd]
      simp
    · rw [doubled, if_neg hd, List.mem_singleton]
  simp [hdoubled]

end Piece

end Sql

/-! Spaces for double quotes. -/

theorem blanked_eq_quote_iff {c : Char} : blanked c = '\'' ↔ c = '\'' := by
  unfold blanked
  split
  · rename_i hc
    rw [hc]
    decide
  · rfl

theorem blanked_ne_doubleQuote (c : Char) : blanked c ≠ '"' := by
  unfold blanked
  split
  · decide
  · assumption

theorem count_blanked (s : String) : (s.map blanked).toList.count '\'' = s.toList.count '\'' := by
  rw [String.toList_map, List.count_eq_countP, List.count_eq_countP, List.countP_map]
  apply List.countP_congr
  intro c _
  rw [Function.comp_apply, beq_iff_eq, beq_iff_eq, blanked_eq_quote_iff]

theorem doubleQuote_notMem_blanked (s : String) : '"' ∉ (s.map blanked).toList := by
  intro h
  rw [String.toList_map] at h
  obtain ⟨c, -, hc⟩ := List.mem_map.1 h
  exact blanked_ne_doubleQuote c hc

/-! What is written for a text. -/

namespace Literal

theorem toList_sql_text (s : String) :
    (text s).sql.toList = (Piece.literal (s.map blanked).toList).chars := by
  rw [String.toList_map]
  exact toList_quote s

theorem strip_sql_text (s : String) :
    Quoted.strip (text s).sql.toList = (s.map blanked).toList.flatMap Piece.doubled := by
  rw [sql, quote, String.toList_ofList, Quoted.strip_encode, flatMap_encodeChar, String.toList_map]

end Literal

/-- A text is written between single quotes and without double quotes, and a reader who takes two
quotes for one and a lone one for the end reads it as a single literal, to its last character. What
is between the quotes has quotes in pairs only, one pair for each quote of the text. Two texts are
written alike exactly if they are the same with spaces for their double quotes. -/
theorem quoted_text_reads_back (s : String) :
    (∃ inner : List Char, (Literal.text s).sql.toList = '\'' :: inner ++ ['\''] ∧
      Quoted.strip (Literal.text s).sql.toList = inner ∧
      Sql.QuotesPaired inner ∧ inner.count '\'' = 2 * s.toList.count '\'') ∧
    '"' ∉ (Literal.text s).sql.toList ∧
    pieces? (Literal.text s).sql = some [.literal (s.map blanked).toList] ∧
    ∀ t : String, (Literal.text s).sql = (Literal.text t).sql ↔ s.map blanked = t.map blanked := by
  have hchars := Literal.toList_sql_text s
  have hread : pieces? (Literal.text s).sql = some [.literal (s.map blanked).toList] :=
    Sql.pieces?_eq_literal_iff.2 hchars
  refine ⟨⟨_, hchars, Literal.strip_sql_text s, ?_, ?_⟩, ?_, hread, fun t => ?_⟩
  · exact Piece.quotesPaired_doubled _
  · rw [Piece.count_doubled, count_blanked]
  · have hinner := mt Piece.mem_flatMap_doubled.1 (doubleQuote_notMem_blanked s)
    rw [hchars, Piece.chars]
    simpa using hinner
  · calc
      (Literal.text s).sql = (Literal.text t).sql
        ↔ (Literal.text s).sql.toList = (Piece.literal (t.map blanked).toList).chars := by
          rw [← Literal.toList_sql_text, String.toList_inj]
      _ ↔ pieces? (Literal.text s).sql = some [.literal (t.map blanked).toList] :=
          Sql.pieces?_eq_literal_iff.symm
      _ ↔ s.map blanked = t.map blanked := by
          rw [hread, Option.some.injEq, List.singleton_inj, Piece.literal.injEq, String.toList_inj]

/-- A quote at the front makes three in a row, and a space at the end has been a double quote. -/
example : (Literal.text "'a\"").sql = "'''a '" := by
  rfl

end CriteriaSql
