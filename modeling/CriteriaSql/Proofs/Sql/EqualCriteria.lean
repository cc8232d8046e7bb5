import CriteriaSql.Proofs.Criteria.Sameness
import CriteriaSql.Proofs.Sql.SelectRendering

/-!
Criteria that are equal by meaning. Their statements run in parallel, and are the same text if and
only if each value of the filter is written alike in both.
-/

namespace CriteriaSql

open Sql (Piece plain written)

namespace Sql

/-- From inside of a literal, what is left of its content and what comes after the quote that
closes it. -/
def close? : List Char → Option (List Char × List Char)
  | [] => none
  | '\'' :: '\'' :: rest => (close? rest).map fun (content, after) => ('\'' :: content, after)
  | '\'' :: rest => some ([], rest)
  | c :: rest => (close? rest).map fun (content, after) => (c :: content, after)

theorem close?_content {after : List Char} (hafter : after.head? ≠ some '\'')
    (content : List Char) :
    close? (content.flatMap Piece.doubled ++ '\'' :: after) = some (content, after) := by
  induction content with
  | nil =>
      rw [List.flatMap_nil, List.nil_append, close?]
      rintro rest rfl
      exact hafter rfl
  | cons c rest ih =>
      rw [List.flatMap_cons, List.append_assoc, Piece.doubled]
      by_cases hc : c = '\''
      · rw [if_pos hc, hc]
        show (close? (rest.flatMap Piece.doubled ++ '\'' :: after)).map _ = _
        rw [ih, Option.map_some]
      · rw [if_neg hc, List.singleton_append, close?, ih, Option.map_some]
        · intro others h _
          exact hc h
        · exact hc

/-- Where a literal ends is seen from the text, as long as no quote follows it. -/
theorem literal_append_eq_iff {content other r s : List Char} (hr : r.head? ≠ some '\'')
    (hs : s.head? ≠ some '\'') :
    (Piece.literal content).chars ++ r = (Piece.literal other).chars ++ s ↔
      content = other ∧ r = s := by
  constructor
  · intro h
    simp only [Piece.chars, List.cons_append, List.append_assoc, List.cons.injEq, true_and,
      List.nil_append] at h
    have hclose := close?_content hr content
    rw [h, close?_content hs other, Option.some.injEq, Prod.mk.injEq] at hclose
    exact ⟨hclose.1.symm, hclose.2.symm⟩
  · rintro ⟨rfl, rfl⟩
    rfl

theorem literal_chars_eq_iff {content other : List Char} :
    (Piece.literal content).chars = (Piece.literal other).chars ↔ content = other := by
  have happend := @literal_append_eq_iff content other [] [] (by simp) (by simp)
  simpa using happend

end Sql

/-- A value of a filter and the text that stands for it in its place. -/
abbrev Placed := Literal × String

/-- Two values are written alike unless they are variants of one another. -/
def Placed.Matches (v w : Placed) : Prop :=
  v.2 = w.2 ∨ v.1.Variant w.1

def Literal.placed (value : Literal) : Placed :=
  (value, value.sql)

/-- A pattern of a like map is written with its percent signs decoded. -/
def Literal.placedPattern (value : Literal) : Placed :=
  (value, String.ofList (decodePercent value.sql.toList))

def Condition.placed : Condition → List Placed
  | equals value => [value.placed]
  | isIn values => values.map Literal.placed
  | compare comparisons => comparisons.map fun entry => entry.2.placed

def placedAlgebra : Clause.Algebra (List Placed) (List Placed) where
  clauses parts := parts.flatten
  any branches := branches.flatten
  all branches := branches.flatten
  like patterns := patterns.map fun entry => entry.2.placedPattern
  column _ condition := condition.placed

def Clause.placed (clause : Clause) : List Placed :=
  clause.fold placedAlgebra

/-- The values of a filter in their order, each as it is written. -/
def Predicate.placed (predicate : Predicate) : List Placed :=
  predicate.fold placedAlgebra

def Criteria.placed (criteria : Criteria) : List Placed :=
  criteria.filter.elim [] Predicate.placed

/-- Texts with values in them. They are the same if and only if the values are written alike, one
by one, whatever follows that does not begin with a quote. -/
structure Parallel (x y : List Char) (vs ws : List Placed) : Prop where
  values : List.Forall₂ Placed.Matches vs ws
  eq_iff : ∀ {r s}, r.head? ≠ some '\'' → s.head? ≠ some '\'' →
    (x ++ r = y ++ s ↔ vs.map Prod.snd = ws.map Prod.snd ∧ r = s)

namespace Parallel

theorem refl (x : List Char) (vs : List Placed) : Parallel x x vs vs where
  values := List.forall₂_same.2 fun v _ => .inl rfl
  eq_iff _ _ := by simp

variable {x y z u : List Char} {v w : Placed} {vs ws vs' ws' : List Placed}

/-- Single values, each of which shows where it ends. -/
theorem single (hvalues : v.Matches w)
    (h : ∀ {r s}, r.head? ≠ some '\'' → s.head? ≠ some '\'' →
      (x ++ r = y ++ s ↔ v.2 = w.2 ∧ r = s)) : Parallel x y [v] [w] where
  values := .cons hvalues .nil
  eq_iff hr hs := by simpa using h hr hs

theorem prefixed (before : List Char) (h : Parallel x y vs ws) :
    Parallel (before ++ x) (before ++ y) vs ws where
  values := h.values
  eq_iff hr hs := by
    rw [List.append_assoc, List.append_assoc, List.append_cancel_left_eq]
    exact h.eq_iff hr hs

theorem append (h : Parallel x y vs ws) (h' : Parallel z u vs' ws') (hz : z.head? ≠ some '\'')
    (hu : u.head? ≠ some '\'') : Parallel (x ++ z) (y ++ u) (vs ++ vs') (ws ++ ws') where
  values := List.rel_append h.values h'.values
  eq_iff {r s} hr hs := by
    have hhead : ∀ {z r : List Char}, z.head? ≠ some '\'' → r.head? ≠ some '\'' →
        (z ++ r).head? ≠ some '\'' := by
      intro z r hz hr
      cases z with
      | nil => exact hr
      | cons c rest => exact hz
    have hlength : (vs.map Prod.snd).length = (ws.map Prod.snd).length := by
      rw [List.length_map, List.length_map, h.values.length_eq]
    rw [List.append_assoc, List.append_assoc, h.eq_iff (hhead hz hr) (hhead hu hs),
      h'.eq_iff hr hs, List.map_append, List.map_append, ← and_assoc]
    constructor
    · rintro ⟨⟨hvs, hvs'⟩, hrest⟩
      exact ⟨by rw [hvs, hvs'], hrest⟩
    · rintro ⟨htexts, hrest⟩
      exact ⟨List.append_inj htexts hlength, hrest⟩

theorem suffixed (h : Parallel x y vs ws) {after : List Char} (hafter : after.head? ≠ some '\'') :
    Parallel (x ++ after) (y ++ after) vs ws := by
  have happend := h.append (refl after []) hafter hafter
  rwa [List.append_nil, List.append_nil] at happend

/-- Parts that are parallel one by one, with a separator between them that shows where they end. -/
theorem intercalate {f : α → List Piece} {p : α → List Placed} (separator : String)
    (hseparator : ∀ rest, (separator.toList ++ rest).head? ≠ some '\'') {as bs : List α}
    (h : List.Forall₂ (fun a b => Parallel (written (f a)) (written (f b)) (p a) (p b)) as bs) :
    Parallel (written ((plain separator).intercalate (as.map f)))
      (written ((plain separator).intercalate (bs.map f))) (as.flatMap p) (bs.flatMap p) := by
  induction h with
  | nil => exact refl [] []
  | @cons a b as bs hfirst hrest ih =>
      cases hrest with
      | nil => simpa using hfirst
      | cons hnext hothers =>
          simp only [List.map_cons, List.intercalate_cons_cons, Sql.written_append,
            Sql.written_plain, List.flatMap_cons, List.append_assoc] at ih ⊢
          exact hfirst.append (ih.prefixed separator.toList) (hseparator _) (hseparator _)

/-- A list of such parts in brackets, or after an operator and before a bracket. -/
theorem enclosed {f : α → List Piece} {p : α → List Placed} (before separator after : String)
    (hafter : after.toList.head? ≠ some '\'')
    (hseparator : ∀ rest, (separator.toList ++ rest).head? ≠ some '\'') {as bs : List α}
    (h : List.Forall₂ (fun a b => Parallel (written (f a)) (written (f b)) (p a) (p b)) as bs) :
    Parallel
      (written (plain before ++ (plain separator).intercalate (as.map f) ++ plain after))
      (written (plain before ++ (plain separator).intercalate (bs.map f) ++ plain after))
      (as.flatMap p) (bs.flatMap p) := by
  simp only [Sql.written_append, Sql.written_plain]
  exact ((intercalate separator hseparator h).prefixed before.toList).suffixed hafter

end Parallel

/-! Values. -/

namespace Literal

variable {v w : Literal}

/-- Two texts are written alike between quotes only if they are alike. -/
theorem sql_eq_iff_content {content other : List Char} (hv : v.content? = some content)
    (hw : w.content? = some other) : v.sql = w.sql ↔ content = other := by
  rw [← String.toList_inj, sql_of_content? hv, sql_of_content? hw, Sql.literal_chars_eq_iff]

theorem Variant.pattern_eq_iff (h : v.Variant w) : v.pattern = w.pattern ↔ v.sql = w.sql := by
  cases h with
  | zero negative => cases negative <;> decide
  | @json a b _ _ => exact (sql_eq_iff_content (v := .json a) (w := .json b) rfl rfl).symm

theorem Variant.isNull_eq (h : v.Variant w) : v.isNull = false ∧ w.isNull = false := by
  cases h with
  | zero negative => exact ⟨rfl, rfl⟩
  | json _ _ => exact ⟨rfl, rfl⟩

/-- Values that are written as numerals or as literals show where they end. -/
theorem parallel_written {f : Literal → List Piece}
    (hzero : ∀ negative, f (.float (.zero negative)) = plain (Literal.float (.zero negative)).sql)
    (hjson : ∀ a, ∃ content, f (.json a) = [.literal content]) (h : v.same w = true) :
    Parallel (written (f v)) (written (f w)) [(v, String.ofList (written (f v)))]
      [(w, String.ofList (written (f w)))] := by
  rcases eq_or_variant h with rfl | hvariant
  · exact .refl _ _
  apply Parallel.single (.inr hvariant)
  intro r s hr hs
  rw [String.ofList_inj]
  cases hvariant with
  | zero negative =>
      rw [hzero, hzero, Sql.written_plain, Sql.written_plain]
      -- The sign is the first character of the one, and a zero that of the other.
      cases negative with
      | false =>
          exact iff_of_false (fun h => absurd (List.cons.inj h).1 (by decide))
            (fun h => absurd h.1 (by decide))
      | true =>
          exact iff_of_false (fun h => absurd (List.cons.inj h).1 (by decide))
            (fun h => absurd h.1 (by decide))
  | @json a b _ _ =>
      obtain ⟨content, hcontent⟩ := hjson a
      obtain ⟨other, hother⟩ := hjson b
      rw [hcontent, hother, Sql.written_singleton, Sql.written_singleton,
        Sql.literal_append_eq_iff hr hs, Sql.literal_chars_eq_iff]

theorem placed_eq (value : Literal) :
    value.placed = (value, String.ofList (written value.pieces)) := by
  rw [placed, ← toList_prepared, String.ofList_toList, prepared_eq_sql]

theorem placedPattern_eq (value : Literal) :
    value.placedPattern = (value, String.ofList (written value.decodedPieces)) := by
  rw [placedPattern, ← toList_decoded, prepared_eq_sql]

theorem parallel_pieces (h : v.same w = true) :
    Parallel (written v.pieces) (written w.pieces) [v.placed] [w.placed] := by
  rw [placed_eq, placed_eq]
  exact parallel_written (fun _ => rfl) (fun _ => ⟨_, rfl⟩) h

theorem parallel_decodedPieces (h : v.same w = true) :
    Parallel (written v.decodedPieces) (written w.decodedPieces) [v.placedPattern]
      [w.placedPattern] := by
  rw [placedPattern_eq, placedPattern_eq]
  exact parallel_written (fun _ => rfl) (fun _ => ⟨_, rfl⟩) h

end Literal

/-! Conditions. -/

section

variable {v w : Literal} (h : v.same w = true)

include h

theorem parallel_compared (column operator : String) :
    Parallel (written (comparedPieces column operator v))
      (written (comparedPieces column operator w)) [v.placed] [w.placed] := by
  rw [comparedPieces, comparedPieces, Sql.written_append, Sql.written_append]
  exact (Literal.parallel_pieces h).prefixed _

/-- A null is written into the operator, or else the value follows it. -/
theorem parallel_nullable (column operator null : String) :
    Parallel
      (written (if v.isNull then plain (column ++ null) else comparedPieces column operator v))
      (written (if w.isNull then plain (column ++ null) else comparedPieces column operator w))
      [v.placed] [w.placed] := by
  rcases Literal.eq_or_variant h with rfl | hvariant
  · exact .refl _ _
  · have hnull := hvariant.isNull_eq
    rw [hnull.1, hnull.2]
    exact parallel_compared h column operator

theorem parallel_wildcard (column before after : String) :
    Parallel (written (wildcardPieces column before v after))
      (written (wildcardPieces column before w after)) [v.placed] [w.placed] := by
  rcases Literal.eq_or_variant h with rfl | hvariant
  · exact .refl _ _
  · rw [wildcardPieces, wildcardPieces, Sql.written_append, Sql.written_append,
      Sql.written_singleton, Sql.written_singleton]
    apply Parallel.prefixed
    apply Parallel.single (.inr hvariant)
    intro r s hr hs
    rw [Sql.literal_append_eq_iff hr hs, List.append_left_inj, List.append_right_inj,
      hvariant.pattern_eq_iff]
    rfl

theorem Comparator.parallel (comparator : Comparator) (column : String) :
    Parallel (written (comparator.pieces column v)) (written (comparator.pieces column w))
      [v.placed] [w.placed] := by
  cases comparator with
  | lessThan => exact parallel_compared h column "<"
  | lessThanOrEqual => exact parallel_compared h column "<="
  | greaterThan => exact parallel_compared h column ">"
  | greaterThanOrEqual => exact parallel_compared h column ">="
  | not => exact parallel_nullable h column "<>" " IS NOT NULL"
  | like => exact parallel_wildcard h column "" ""
  | contains => exact parallel_wildcard h column "%" "%"
  | startsWith => exact parallel_wildcard h column "" "%"
  | endsWith => exact parallel_wildcard h column "%" ""

end

theorem Condition.parallel {p q : Condition} (h : p.same q = true) (column : String) :
    Parallel (written (p.pieces column)) (written (q.pieces column)) p.placed q.placed := by
  unfold same at h
  split at h
  case h_1 v w => exact parallel_nullable h column "=" " IS NULL"
  case h_2 vs ws =>
    have hvalues := (sameList_iff.1 h).imp fun v w => Literal.parallel_pieces
    have hlist := Parallel.enclosed (column ++ " IN (") ", " ")" (by decide) (fun _ => by simp)
      hvalues
    rw [← List.map_eq_flatMap, ← List.map_eq_flatMap] at hlist
    exact hlist
  case h_3 as bs =>
    have hentries : List.Forall₂ (fun a b : Comparator × Literal =>
        Parallel (written (a.1.pieces column a.2)) (written (b.1.pieces column b.2))
          [a.2.placed] [b.2.placed]) as bs := by
      refine (sameEntries_iff.1 h).imp fun a b hab => ?_
      rw [hab.1]
      exact b.1.parallel hab.2 column
    have hlist := Parallel.intercalate " AND " (fun _ => by simp) hentries
    rw [← List.map_eq_flatMap, ← List.map_eq_flatMap] at hlist
    exact hlist
  case h_4 => cases h

/-! Clauses and filters. -/

theorem Predicate.parallel_of_clauses {p q : Predicate}
    (h : List.Forall₂ (fun a b : Clause =>
      Parallel (written a.pieces) (written b.pieces) a.placed b.placed) p q) :
    Parallel (written p.pieces) (written q.pieces) p.placed q.placed :=
  Parallel.intercalate " AND " (fun _ => by simp) h

theorem Clause.parallel {a b : Clause} (h : a.same b = true) :
    Parallel (written a.pieces) (written b.pieces) a.placed b.placed := by
  refine Clause.same_induct (motive := fun a b =>
    Parallel (written a.pieces) (written b.pieces) a.placed b.placed) ?any ?all ?like ?column h
  case any =>
    intro ps qs ih
    have hbranches := ih.imp fun p q => Predicate.parallel_of_clauses
    rw [pieces_any, pieces_any, placed, placed, fold_any, fold_any]
    exact Parallel.enclosed "( " " OR " " )" (by decide) (fun _ => by simp) hbranches
  case all =>
    intro ps qs ih
    have hbranches := ih.imp fun p q => Predicate.parallel_of_clauses
    rw [pieces_all, pieces_all, placed, placed, fold_all, fold_all]
    exact Parallel.enclosed "( " " AND " " )" (by decide) (fun _ => by simp) hbranches
  case like =>
    intro ps qs h
    have hentries : List.Forall₂ (fun a b : String × Literal =>
        Parallel (written (likePieces a.1 a.2)) (written (likePieces b.1 b.2))
          [a.2.placedPattern] [b.2.placedPattern]) ps qs := by
      refine h.imp fun a b hab => ?_
      rw [likePieces, likePieces, hab.1, Sql.written_append, Sql.written_append]
      exact (Literal.parallel_decodedPieces hab.2).prefixed _
    have hlist := Parallel.intercalate " AND " (fun _ => by simp) hentries
    rw [← List.map_eq_flatMap, ← List.map_eq_flatMap] at hlist
    rw [pieces_like, pieces_like, placed, placed, fold_like, fold_like]
    exact hlist
  case column =>
    intro name p q h
    rw [pieces_column, pieces_column, placed, placed, fold_column, fold_column]
    exact Condition.parallel h name

theorem Predicate.parallel {p q : Predicate} (h : Predicate.same p q = true) :
    Parallel (written p.pieces) (written q.pieces) p.placed q.placed :=
  Predicate.parallel_of_clauses ((Predicate.same_iff.1 h).imp fun _ _ => Clause.parallel)

theorem Literal.isRegex_of_same {v w : Literal} (h : v.same w = true) : v.isRegex = w.isRegex := by
  rcases eq_or_variant h with rfl | hvariant
  · rfl
  · cases hvariant <;> rfl

/-- What is the same item by item has the same answer to a question that is asked of each. -/
theorem any_eq_of_forall₂ {f : α → Bool} {as bs : List α}
    (h : List.Forall₂ (fun a b => f a = f b) as bs) : as.any f = bs.any f := by
  induction h with
  | nil => rfl
  | cons hfirst _ ih => rw [List.any_cons, List.any_cons, hfirst, ih]

theorem Clause.hasRegex_of_same {a b : Clause} (h : a.same b = true) :
    a.hasRegex = b.hasRegex := by
  have hbranches : ∀ {ps qs : List Predicate},
      List.Forall₂ (List.Forall₂ fun a b : Clause => a.hasRegex = b.hasRegex) ps qs →
      ps.any Predicate.hasRegex = qs.any Predicate.hasRegex := by
    intro ps qs h
    refine any_eq_of_forall₂ (h.imp fun p q hpq => ?_)
    rw [Predicate.hasRegex_eq, Predicate.hasRegex_eq]
    exact any_eq_of_forall₂ hpq
  refine Clause.same_induct (motive := fun a b => a.hasRegex = b.hasRegex)
    ?any ?all ?like ?column h
  case any =>
    intro ps qs ih
    rw [hasRegex_any, hasRegex_any, hbranches ih]
  case all =>
    intro ps qs ih
    rw [hasRegex_all, hasRegex_all, hbranches ih]
  case like =>
    intro ps qs h
    rw [hasRegex_like, hasRegex_like]
    exact any_eq_of_forall₂ (h.imp fun _ _ hab => Literal.isRegex_of_same hab.2)
  case column =>
    intro name p q _
    rw [hasRegex_column, hasRegex_column]

theorem Predicate.hasRegex_of_same {p q : Predicate} (h : Predicate.same p q = true) :
    p.hasRegex = q.hasRegex := by
  rw [hasRegex_eq, hasRegex_eq]
  exact any_eq_of_forall₂ ((Predicate.same_iff.1 h).imp fun _ _ => Clause.hasRegex_of_same)

/-! Selects. -/

section

variable {p q : Option Predicate} (h : Option.Rel (fun p q => Predicate.same p q = true) p q)

include h

theorem isSome_of_same : p.isSome = q.isSome := by
  cases h <;> rfl

theorem any_hasRegex_of_same : p.any Predicate.hasRegex = q.any Predicate.hasRegex := by
  cases h with
  | none => rfl
  | some hsame => exact Predicate.hasRegex_of_same hsame

theorem parallel_where :
    Parallel (written (wherePieces p)) (written (wherePieces q)) (p.elim [] Predicate.placed)
      (q.elim [] Predicate.placed) := by
  cases h with
  | none => exact .refl [] []
  | some hsame =>
      have hcondition := Predicate.parallel hsame
      simp only [wherePieces, Sql.written_append, Sql.written_plain]
      exact (hcondition.prefixed _).suffixed (by decide)

end

namespace Criteria

variable {a b : Criteria}

/-- Equal criteria have everything but their filters in common. -/
theorem eq_of_same (h : a.same b = true) :
    ∃ filter, b = { a with filter } ∧
      Option.Rel (fun p q => Predicate.same p q = true) a.filter filter := by
  simp only [same, Bool.and_eq_true, beq_iff_eq] at h
  obtain ⟨⟨⟨⟨⟨⟨⟨hfilter, hsort⟩, hgroupBy⟩, hsum⟩, haverage⟩, hmin⟩, hmax⟩, hlimit⟩ := h
  refine ⟨b.filter, ?_, ?_⟩
  · cases b
    simp only at hsort hgroupBy hsum haverage hmin hmax hlimit
    rw [hsort, hgroupBy, hsum, haverage, hmin, hmax, hlimit]
  · split at hfilter
    case h_1 hp hq =>
      rw [hp, hq]
      exact .none
    case h_2 p q hp hq =>
      rw [hp, hq]
      exact .some hfilter
    case h_3 => cases hfilter

/-- The statement of an aggregate select and its warning do not depend on the values of a filter. -/
theorem select_congr_of_isAggregate (table : String) {filter : Option Predicate}
    (haggregate : a.isAggregate = true) (hsome : filter.isSome = a.filter.isSome) :
    { a with filter }.select table = a.select table := by
  have haggregate' : { a with filter }.isAggregate = true := haggregate
  unfold select
  rw [if_pos haggregate, if_pos haggregate', hsome]
  rfl

/-- What comes before a filter and after it is the same text, and the filters run in parallel. -/
theorem parallel_plainPieces (table : String) {filter : Option Predicate}
    (h : Option.Rel (fun p q => Predicate.same p q = true) a.filter filter) :
    Parallel (written (a.plainPieces table)) (written ({ a with filter }.plainPieces table))
      a.placed { a with filter }.placed := by
  have horder : (orderSql a.sort).toList.head? ≠ some '\'' := by
    unfold orderSql
    split
    · decide
    · simp
  unfold plainPieces
  simp only [Sql.written_append, Sql.written_plain]
  exact ((parallel_where h).prefixed _).suffixed horder

/-- Equal criteria fail alike, or both are compiled, with the same warnings. The statements are the
same if and only if they are aggregate selects or each value of the filter is written alike, and
only variants are not. -/
theorem select_of_same (table : String) {a b : Criteria} (h : a.same b = true) :
    (∀ fault, a.select table = .error fault ↔ b.select table = .error fault) ∧
    (∀ x y, a.select table = .ok x → b.select table = .ok y →
      x.events = y.events ∧
      (x.value = y.value ↔
        a.isAggregate = true ∨ a.placed.map Prod.snd = b.placed.map Prod.snd)) ∧
    List.Forall₂ Placed.Matches a.placed b.placed := by
  obtain ⟨filter, rfl, hfilter⟩ := eq_of_same h
  have hparallel := parallel_plainPieces table hfilter
  have hregex : { a with filter }.hasRegex = a.hasRegex := (any_hasRegex_of_same hfilter).symm
  cases haggregate : a.isAggregate with
  | true =>
      -- An aggregate select has no place for the filter: it only counts whether there is one.
      rw [select_congr_of_isAggregate table haggregate (isSome_of_same hfilter).symm]
      refine ⟨fun _ => .rfl, ?_, hparallel.values⟩
      intro x y hx hy
      obtain rfl := Except.ok.inj (hx.symm.trans hy)
      simp
  | false =>
      have haggregate' : { a with filter }.isAggregate = false := haggregate
      rw [select_of_not_isAggregate table haggregate, select_of_not_isAggregate table haggregate',
        hregex]
      cases a.hasRegex with
      | true =>
          rw [if_pos rfl, if_pos rfl]
          refine ⟨fun _ => .rfl, ?_, hparallel.values⟩
          intro x y hx
          cases hx
      | false =>
          rw [if_neg Bool.false_ne_true, if_neg Bool.false_ne_true]
          refine ⟨fun _ => by simp, ?_, hparallel.values⟩
          intro x y hx hy
          obtain rfl := Except.ok.inj hx
          obtain rfl := Except.ok.inj hy
          -- The texts run in parallel, so that they are equal just where the values are.
          have heq := hparallel.eq_iff (r := []) (s := []) (by simp) (by simp)
          rw [List.append_nil, List.append_nil] at heq
          refine ⟨rfl, ?_⟩
          rw [String.ofList_inj, heq]
          simp

/-- An object is compared with its members in two orders, besides a name. -/
theorem select_of_same_members :
    let asked (members : List (String × Json)) : Criteria := { empty with
      filter := some [.column "a" (.equals (.json (.object members))),
        .like [("name", .text "%%%")]] }
    let a := asked [("x", .null), ("y", .bool true)]
    let b := asked [("y", .bool true), ("x", .null)]
    ∃ x y, a.select "T" = .ok x ∧ b.select "T" = .ok y ∧ x.events = y.events ∧
      x.value ≠ y.value := by
  intro asked a b
  have hselects := (select_of_same "T" (by decide : a.same b = true)).2.1 _ _ rfl rfl
  exact ⟨_, _, rfl, rfl, hselects.1, fun h => absurd (hselects.2.1 h) (by decide)⟩

/-- A zero keeps its sign in the statement, although the sign does not count in the criteria. -/
theorem select_signed_zero :
    let asked (negative : Bool) : Criteria := { empty with
      filter := some [.column "a" (.equals (.float (.zero negative)))] }
    (asked false).same (asked true) = true ∧
      (asked false).select "T" = .ok ⟨"SELECT * FROM T WHERE a=0 ", []⟩ ∧
      (asked true).select "T" = .ok ⟨"SELECT * FROM T WHERE a=-0 ", []⟩ ∧
      (asked false).select "T" ≠ (asked true).select "T" := by
  intro asked
  have hplain : (asked false).select "T" = .ok ⟨"SELECT * FROM T WHERE a=0 ", []⟩ := rfl
  have hsigned : (asked true).select "T" = .ok ⟨"SELECT * FROM T WHERE a=-0 ", []⟩ := rfl
  refine ⟨by decide, hplain, hsigned, ?_⟩
  rw [hplain, hsigned]
  simp

end Criteria

end CriteriaSql
