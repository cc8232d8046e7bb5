import CriteriaSql.Proofs.Sql.Meaning
import Mathlib.Data.List.Chain

/-!
What is empty is not in the grammar. Some tokens ask for a condition or a value after them and
some come only after one; between two such tokens a select always has something, and a predicate
whose tokens do so too is one in which nothing is empty.
-/

namespace CriteriaSql

namespace Sql

/-- A condition or a value has to follow. -/
def Token.opens : Token → Bool
  | .word name => name == "WHERE" || name == "AND" || name == "OR"
  | .opening => true
  | _ => false

/-- A condition or a value has to come before. -/
def Token.closes : Token → Bool
  | .word name => name == "AND" || name == "OR" || name == "ORDER"
  | .closing => true
  | _ => false

/-- Two tokens that may stand side by side. -/
def Adjoins (t u : Token) : Prop :=
  (t.opens && u.closes) = false

theorem adjoins_of_opens {t : Token} (h : t.opens = false) (u : Token) : Adjoins t u := by
  rw [Adjoins, h, Bool.false_and]

theorem adjoins_of_closes (t : Token) {u : Token} (h : u.closes = false) : Adjoins t u := by
  rw [Adjoins, h, Bool.and_false]

/-! Tokens that fill any place. -/

def Fills (tokens : List Token) : Prop :=
  ∀ before after, (before :: (tokens ++ [after])).IsChain Adjoins

def Token.isNeutral (t : Token) : Bool :=
  !t.opens && !t.closes

namespace Fills

theorem of_neutral {tokens : List Token} (hne : tokens ≠ [])
    (h : ∀ t ∈ tokens, t.isNeutral) : Fills tokens := by
  have hneutral : ∀ t ∈ tokens, t.opens = false ∧ t.closes = false := by
    intro t ht
    simpa [Token.isNeutral] using h t ht
  intro before after
  induction tokens generalizing before with
  | nil => exact absurd rfl hne
  | cons t rest ih =>
      have ht := hneutral t List.mem_cons_self
      rw [List.cons_append, List.isChain_cons_cons]
      -- The first token takes the place of the one before for what is left.
      refine ⟨adjoins_of_closes before ht.2, ?_⟩
      cases rest with
      | nil => exact List.isChain_pair.2 (adjoins_of_opens ht.1 after)
      | cons next others =>
          apply ih (List.cons_ne_nil _ _)
          · exact fun u hu => h u (List.mem_cons_of_mem _ hu)
          · exact fun u hu => hneutral u (List.mem_cons_of_mem _ hu)

/-- Whatever stands between, it has something on both sides. -/
theorem around {ts us : List Token} (ht : Fills ts) (hu : Fills us) (mark : Token) :
    Fills (ts ++ mark :: us) := by
  intro before after
  rw [List.append_assoc, List.cons_append, List.isChain_cons_split]
  exact ⟨ht before mark, hu mark after⟩

theorem following {first : List Token} {rest : List (List Token)} (hfirst : Fills first)
    (hrest : ∀ part ∈ rest, Fills part) (mark : Token) :
    Fills (first ++ Sql.following mark rest) := by
  induction rest generalizing first with
  | nil => rwa [Sql.following, List.flatMap_nil, List.append_nil]
  | cons next others ih =>
      have hnext : Fills (next ++ Sql.following mark others) :=
        ih (hrest next List.mem_cons_self) fun part hpart =>
          hrest part (List.mem_cons_of_mem _ hpart)
      exact hfirst.around hnext mark

theorem bracketed {ts : List Token} (h : Fills ts) : Fills (bracketedTokens ts) := by
  intro before after
  rw [bracketedTokens, List.cons_append, List.isChain_cons_cons, List.append_assoc,
    List.singleton_append, List.isChain_cons_append_cons_cons]
  refine ⟨adjoins_of_closes before rfl, h .opening .closing, adjoins_of_opens rfl after, ?_⟩
  exact List.isChain_singleton _

end Fills

/-! Every condition of the grammar does. -/

theorem Name.isNeutral_token (name : Name) : name.token.isNeutral := by
  have hwhere : name.text ≠ "WHERE" := ne_of_mem_reserved (by decide)
  have hand : name.text ≠ "AND" := ne_of_mem_reserved (by decide)
  have hor : name.text ≠ "OR" := ne_of_mem_reserved (by decide)
  have horder : name.text ≠ "ORDER" := ne_of_mem_reserved (by decide)
  simp [token, Token.isNeutral, Token.opens, Token.closes, hwhere, hand, hor, horder]

theorem Value.isNeutral_token (value : Value) : value.token.isNeutral := by
  cases value <;> rfl

theorem Operator.isNeutral_token (operator : Operator) : operator.token.isNeutral := by
  cases operator <;> rfl

theorem Comparison.fills (comparison : Comparison) : Fills comparison.tokens := by
  cases comparison with
  | compare column operator value =>
      apply Fills.of_neutral (List.cons_ne_nil _ _)
      simp [column.isNeutral_token, operator.isNeutral_token, value.isNeutral_token]
  | isNull column | isNotNull column =>
      apply Fills.of_neutral (List.cons_ne_nil _ _)
      simp [column.isNeutral_token]
      decide
  | isIn column first rest =>
      have hcolumn : Fills [column.token] :=
        .of_neutral (List.cons_ne_nil _ _) (by simp [column.isNeutral_token])
      have hvalue : ∀ value : Value, Fills [value.token] := fun value =>
        .of_neutral (List.cons_ne_nil _ _) (by simp [value.isNeutral_token])
      have hvalues :
          Fills ([first.token] ++ following .comma (rest.map fun value => [value.token])) :=
        (hvalue first).following (List.forall_mem_map.2 fun value _ => hvalue value) .comma
      have hlist := hcolumn.around hvalues.bracketed (.word "IN")
      simpa [Comparison.tokens, bracketedTokens] using hlist

mutual

theorem SearchCondition.fills : ∀ condition : SearchCondition, Fills condition.tokens
  | .term term => by
      rw [SearchCondition.tokens]
      exact term.fills
  | .or term rest => by
      rw [SearchCondition.tokens]
      exact term.fills.around rest.fills _

theorem BooleanTerm.fills : ∀ term : BooleanTerm, Fills term.tokens
  | .factor factor => by
      rw [BooleanTerm.tokens]
      exact factor.fills
  | .and factor rest => by
      rw [BooleanTerm.tokens]
      exact factor.fills.around rest.fills _

theorem BooleanFactor.fills : ∀ factor : BooleanFactor, Fills factor.tokens
  | .comparison comparison => by
      rw [BooleanFactor.tokens]
      exact comparison.fills
  | .group condition => by
      rw [BooleanFactor.tokens]
      exact condition.fills.bracketed

end

/-! What follows the name of the table. -/

theorem opens_of_mem_orderTokens {order : List (Name × SortOrder)} {t : Token}
    (h : t ∈ Select.orderTokens order) : t.opens = false := by
  have hname : ∀ name : Name, name.token.opens = false := by
    intro name
    have hneutral := name.isNeutral_token
    rw [Token.isNeutral, Bool.and_eq_true, Bool.not_eq_true'] at hneutral
    exact hneutral.1
  have hentry : ∀ entry : Name × SortOrder, ∀ u ∈ Select.entryTokens entry, u.opens = false := by
    rintro ⟨name, direction⟩ u hu
    rcases List.mem_pair.1 hu with rfl | rfl
    · exact hname name
    · cases direction <;> simp [SortOrder.sql, Token.opens]
  cases order with
  | nil => cases h
  | cons first rest =>
      rw [Select.orderTokens, List.mem_append, List.mem_append, List.mem_pair] at h
      rcases h with ((rfl | rfl) | hfirst) | hrest
      · decide
      · decide
      · exact hentry first t hfirst
      · obtain ⟨part, hpart, hmem⟩ := List.mem_flatMap.1 hrest
        obtain ⟨entry, _, rfl⟩ := List.mem_map.1 hpart
        rcases List.mem_cons.1 hmem with rfl | hmem
        · rfl
        · exact hentry entry t hmem

/-- A bracket that closes may well be put after it all. -/
theorem isChain_clauses (condition : Option SearchCondition) (order : List (Name × SortOrder)) :
    (Select.whereTokens condition ++
      (Select.orderTokens order ++ [Token.closing])).IsChain Adjoins := by
  have hopens : ∀ t ∈ Select.orderTokens order ++ [Token.closing], t.opens = false := by
    intro t ht
    rcases List.mem_append.1 ht with horder | hclosing
    · exact opens_of_mem_orderTokens horder
    · rw [List.mem_singleton.1 hclosing]
      rfl
  have horder : (Select.orderTokens order ++ [Token.closing]).IsChain Adjoins := by
    apply List.Pairwise.isChain
    apply List.pairwise_of_forall_mem_list
    intro t ht u _
    exact adjoins_of_opens (hopens t ht) u
  cases condition with
  | none => exact horder
  | some condition =>
      -- The condition ends where the order begins, or the bracket if there is no order.
      have hne : Select.orderTokens order ++ [Token.closing] ≠ [] := by simp
      obtain ⟨t, rest, hsplit⟩ := List.exists_cons_of_ne_nil hne
      rw [hsplit] at horder ⊢
      rw [Select.whereTokens, List.cons_append, List.isChain_cons_split]
      exact ⟨condition.fills _ t, horder⟩

/-! Tokens that stand where something has to, and where nothing is missing. -/

def InPlace (tokens : List Token) : Prop :=
  ∃ before after : Token, before.opens ∧ after.closes ∧
    (before :: (tokens ++ [after])).IsChain Adjoins

namespace InPlace

theorem ne_nil {tokens : List Token} (h : InPlace tokens) : tokens ≠ [] := by
  rintro rfl
  obtain ⟨before, after, hbefore, hafter, hchain⟩ := h
  have hpair : Adjoins before after := List.isChain_pair.1 hchain
  rw [Adjoins, hbefore, hafter] at hpair
  cases hpair

theorem bracketed {tokens : List Token} (h : InPlace (bracketedTokens tokens)) :
    InPlace tokens := by
  obtain ⟨before, after, _, _, hchain⟩ := h
  rw [bracketedTokens, List.cons_append, List.isChain_cons_cons, List.append_assoc,
    List.singleton_append, List.isChain_cons_append_cons_cons] at hchain
  exact ⟨.opening, .closing, rfl, rfl, hchain.2.1⟩

theorem of_mem_intercalate {mark : Token} (hopens : mark.opens) (hcloses : mark.closes)
    {parts : List (List Token)} (h : InPlace ([mark].intercalate parts)) :
    ∀ part ∈ parts, InPlace part := by
  induction parts with
  | nil =>
      intro part hpart
      cases hpart
  | cons first rest ih =>
      cases rest with
      | nil =>
          rw [List.intercalate_singleton] at h
          intro part hpart
          rwa [List.mem_singleton.1 hpart]
      | cons next others =>
          obtain ⟨before, after, hbefore, hafter, hchain⟩ := h
          -- The mark closes the place of the first part and opens that of the others.
          rw [List.intercalate_cons_cons, List.append_assoc, List.append_assoc,
            List.singleton_append, List.isChain_cons_split] at hchain
          intro part hpart
          rcases List.mem_cons.1 hpart with rfl | hpart
          · exact ⟨before, mark, hbefore, hcloses, hchain.1⟩
          · exact ih ⟨mark, after, hopens, hafter, hchain.2⟩ part hpart

/-- So there are parts, and every one of them is in place. -/
theorem parts {mark : Token} (hopens : mark.opens) (hcloses : mark.closes) {f : α → List Token}
    {items : List α} (h : InPlace ([mark].intercalate (items.map f))) :
    items ≠ [] ∧ ∀ item ∈ items, InPlace (f item) := by
  refine ⟨?_, List.forall_mem_map.1 (of_mem_intercalate hopens hcloses h)⟩
  rintro rfl
  exact h.ne_nil rfl

end InPlace

end Sql

/-! Predicates whose tokens are in place. -/

open Sql (InPlace Token)

theorem Condition.isFilled_of_inPlace {column : String} {condition : Condition}
    (h : InPlace (condition.tokens column)) : condition.isFilled := by
  cases condition with
  | equals value => rfl
  | isIn values =>
      have hvalues : values ≠ [] := by
        rintro rfl
        obtain ⟨before, after, _, _, hchain⟩ := h
        -- The opening bracket and the closing one stand side by side.
        change List.IsChain _
          [before, .word column, .word "IN", .opening, .closing, after] at hchain
        simp only [List.isChain_cons_cons] at hchain
        cases hchain.2.2.2.1
      simpa [isFilled] using hvalues
  | compare comparisons =>
      have hne := (InPlace.parts (by decide) (by decide) h).1
      simpa [isFilled] using hne

theorem Predicate.isFilled_of_clauses {predicate : Predicate} (h : InPlace predicate.tokens)
    (hclauses : ∀ clause ∈ predicate, InPlace clause.tokens → clause.isFilled) :
    predicate.isFilled := by
  obtain ⟨hne, hparts⟩ := InPlace.parts (by decide) (by decide) h
  exact isFilled_iff.2 ⟨hne, fun clause hclause => hclauses clause hclause (hparts clause hclause)⟩

/-- Branches in brackets, between which something has to stand. -/
theorem isFilled_of_branches {mark : Token} (hopens : mark.opens) (hcloses : mark.closes)
    {branches : List Predicate}
    (h : InPlace (bracketedTokens ([mark].intercalate (branches.map Predicate.tokens))))
    (hclauses : ∀ branch ∈ branches, ∀ clause ∈ branch,
      InPlace clause.tokens → clause.isFilled) :
    branches ≠ [] ∧ ∀ branch ∈ branches, branch.isFilled := by
  obtain ⟨hne, hparts⟩ := InPlace.parts hopens hcloses h.bracketed
  refine ⟨hne, fun branch hbranch => ?_⟩
  exact Predicate.isFilled_of_clauses (hparts branch hbranch) (hclauses branch hbranch)

theorem Clause.isFilled_of_inPlace {clause : Clause} (h : InPlace clause.tokens) :
    clause.isFilled := by
  induction clause using Clause.induct with
  | any branches ih =>
      rw [tokens, fold_any] at h
      exact isFilled_any_iff.2 (isFilled_of_branches (by decide) (by decide) h ih)
  | all branches ih =>
      rw [tokens, fold_all] at h
      exact isFilled_all_iff.2 (isFilled_of_branches (by decide) (by decide) h ih)
  | like patterns =>
      rw [tokens, fold_like] at h
      exact isFilled_like_iff.2 (InPlace.parts (by decide) (by decide) h).1
  | column name condition =>
      rw [tokens, fold_column] at h
      rw [isFilled_column]
      exact condition.isFilled_of_inPlace h

theorem Predicate.isFilled_of_inPlace {predicate : Predicate} (h : InPlace predicate.tokens) :
    predicate.isFilled :=
  isFilled_of_clauses h fun _ _ hclause => Clause.isFilled_of_inPlace hclause

end CriteriaSql
