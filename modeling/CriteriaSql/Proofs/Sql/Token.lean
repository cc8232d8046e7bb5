import CriteriaSql.Proofs.Sql.Numeral
import CriteriaSql.Proofs.Sql.Piece
import CriteriaSql.Text.Basic
import Mathlib.Data.List.SplitBy

/-! Tokens of the dialect, and how a text is cut into them. -/

namespace CriteriaSql.Sql

inductive Token where
  /-- A keyword or a name. -/
  | word (text : String)
  | number (text : String)
  | text (content : List Char)
  | operator (text : String)
  | opening
  | closing
  | comma
  | star
  deriving DecidableEq

/-! Characters. -/

def isInner (c : Char) : Bool :=
  c.isAlphanum || c == '_'

/-- Letters, digits and underscores, and no digit comes first. -/
def isWord : List Char → Bool
  | [] => false
  | c :: rest => !c.isDigit && isInner c && rest.all isInner

/-- Words and numerals are made of these. -/
def isRunChar (c : Char) : Bool :=
  isInner c || c == '.' || c == '-'

def isOperatorChar (c : Char) : Bool :=
  c == '<' || c == '=' || c == '>'

def operators : List String :=
  ["<", "<=", "=", ">", ">=", "<>"]

/-! Cutting. -/

def Piece.isRun : Piece → Bool
  | char c => isRunChar c
  | literal _ => false

def Piece.isOperator : Piece → Bool
  | char c => isOperatorChar c
  | literal _ => false

/-- Two pieces that belong to one token if they stand side by side. -/
def joins (p q : Piece) : Bool :=
  p.isRun && q.isRun || p.isOperator && q.isOperator

def Piece.char? : Piece → Option Char
  | char c => some c
  | literal _ => none

/-- The token of characters that belong together, if it is no blank. -/
def charsToken? (cs : List Char) : Option (List Token) :=
  if isWord cs then some [.word (String.ofList cs)]
  else if isNumeral cs then some [.number (String.ofList cs)]
  else if String.ofList cs ∈ operators then some [.operator (String.ofList cs)]
  else
    match cs with
    | ['('] => some [.opening]
    | [')'] => some [.closing]
    | [','] => some [.comma]
    | ['*'] => some [.star]
    | [' '] => some []
    | _ => none

def token? : List Piece → Option (List Token)
  | [.literal content] => some [.text content]
  | pieces => do charsToken? (← pieces.mapM Piece.char?)

def tokens? (pieces : List Piece) : Option (List Token) :=
  ((pieces.splitBy joins).mapM token?).map List.flatten

/-- The tokens of a text. -/
def lexed? (text : String) : Option (List Token) :=
  (pieces? text).bind tokens?

/-! Lexing: what the tokens of two parts have to do with those of the whole. -/

/-- No token goes over from one part into the other. -/
def Apart (ps qs : List Piece) : Prop :=
  ∀ p ∈ ps.getLast?, ∀ q ∈ qs.head?, joins p q = false

theorem tokens?_append {ps qs : List Piece} {ts us : List Token} (hp : tokens? ps = some ts)
    (hq : tokens? qs = some us) (hapart : Apart ps qs) :
    tokens? (ps ++ qs) = some (ts ++ us) := by
  obtain ⟨parts, hparts, rfl⟩ := Option.map_eq_some_iff.1 hp
  obtain ⟨others, hothers, rfl⟩ := Option.map_eq_some_iff.1 hq
  unfold tokens?
  rw [List.splitBy_append hapart, List.mapM_append, hparts, hothers, ← List.flatten_append]
  rfl

/-- One token fills a part all of whose pieces belong together. -/
theorem tokens?_of_isChain {ps : List Piece} {ts : List Token} (hne : ps ≠ [])
    (hchain : ps.IsChain fun p q => joins p q) (htoken : token? ps = some ts) :
    tokens? ps = some ts := by
  unfold tokens?
  rw [List.splitBy_of_isChain hne hchain, List.mapM_cons, htoken]
  simp

theorem isRun_of_isOperator {p : Piece} (h : p.isOperator) : p.isRun = false := by
  cases p with
  | literal content => rfl
  | char c =>
      simp only [Piece.isOperator, isOperatorChar, Bool.or_eq_true, beq_iff_eq] at h
      rcases h with (rfl | rfl) | rfl <;> decide

theorem isOperator_of_isRun {p : Piece} (h : p.isRun) : p.isOperator = false := by
  cases hoperator : p.isOperator with
  | false => rfl
  | true =>
      rw [isRun_of_isOperator hoperator] at h
      cases h

namespace Apart

variable {ps qs : List Piece}

/-- A blank, a bracket or a comma, and also a literal, joins with nothing. -/
theorem of_start (hrun : ∀ q ∈ qs.head?, q.isRun = false)
    (hoperator : ∀ q ∈ qs.head?, q.isOperator = false) : Apart ps qs := by
  intro p _ q hq
  simp [joins, hrun q hq, hoperator q hq]

theorem of_end (hrun : ∀ p ∈ ps.getLast?, p.isRun = false)
    (hoperator : ∀ p ∈ ps.getLast?, p.isOperator = false) : Apart ps qs := by
  intro p hp q _
  simp [joins, hrun p hp, hoperator p hp]

theorem of_run (hp : ∀ p ∈ ps, p.isRun) (hq : ∀ q ∈ qs.head?, q.isRun = false) :
    Apart ps qs := by
  intro p hmem q hhead
  have hrun := hp p (List.mem_of_getLast? hmem)
  simp [joins, hq q hhead, isOperator_of_isRun hrun]

theorem of_operator (hp : ∀ p ∈ ps, p.isOperator) (hq : ∀ q ∈ qs.head?, q.isOperator = false) :
    Apart ps qs := by
  intro p hmem q hhead
  have hoperator := hp p (List.mem_of_getLast? hmem)
  simp [joins, hq q hhead, isRun_of_isOperator hoperator]

end Apart

/-! Single tokens. -/

theorem isInner_of_isWord {cs : List Char} (h : isWord cs) : ∀ c ∈ cs, isInner c := by
  cases cs with
  | nil => cases h
  | cons d rest =>
      simp only [isWord, Bool.and_eq_true, List.all_eq_true] at h
      intro c hc
      rcases List.mem_cons.1 hc with rfl | hc
      · exact h.1.2
      · exact h.2 c hc

theorem quote_not_mem_of_isWord {cs : List Char} (h : isWord cs) : '\'' ∉ cs :=
  fun hmem => absurd (isInner_of_isWord h _ hmem) (by decide)

theorem isRunChar_of_isNumeral {cs : List Char} (h : isNumeral cs) : ∀ c ∈ cs, isRunChar c := by
  intro c hc
  rcases mem_isNumeral h hc with hdigit | rfl | rfl
  · simp [isRunChar, isInner, Char.isAlphanum, hdigit]
  · decide
  · decide

theorem not_isWord_of_isNumeral {cs : List Char} (h : isNumeral cs) : isWord cs = false := by
  cases cs with
  | nil => rfl
  | cons c rest =>
      -- A numeral begins with a digit, a minus sign or a point, and a word with none of these.
      have hfirst : (!c.isDigit && isInner c) = false := by
        rcases mem_isNumeral h List.mem_cons_self with hdigit | rfl | rfl
        · rw [hdigit]
          rfl
        · decide
        · decide
      rw [isWord, hfirst]
      rfl

theorem token?_chars (cs : List Char) : token? (cs.map .char) = charsToken? cs := by
  have hchars : (cs.map Piece.char).mapM Piece.char? = some cs := by
    induction cs with
    | nil => rfl
    | cons c rest ih =>
        rw [List.map_cons, List.mapM_cons, ih]
        rfl
  unfold token?
  split
  · rename_i content heq
    cases cs with
    | nil => cases heq
    | cons c rest => cases heq
  · rw [hchars]
    rfl

/-- Characters of one kind are cut out as a whole. -/
theorem tokens?_chars {cs : List Char} {ts : List Token} (hne : cs ≠ [])
    (hjoins : ∀ c ∈ cs, ∀ d ∈ cs, joins (.char c) (.char d)) (htoken : charsToken? cs = some ts) :
    tokens? (cs.map .char) = some ts := by
  apply tokens?_of_isChain
  · simpa using hne
  · apply List.Pairwise.isChain
    rw [List.pairwise_map]
    exact List.pairwise_of_forall_mem_list hjoins
  · rw [token?_chars, htoken]

theorem tokens?_run {cs : List Char} {ts : List Token} (hne : cs ≠ [])
    (hrun : ∀ c ∈ cs, isRunChar c) (htoken : charsToken? cs = some ts) :
    tokens? (cs.map .char) = some ts := by
  apply tokens?_chars hne _ htoken
  intro c hc d hd
  simp [joins, Piece.isRun, hrun c hc, hrun d hd]

theorem tokens?_word {text : String} (h : isWord text.toList) :
    tokens? (plain text) = some [.word text] := by
  have hne : text.toList ≠ [] := by
    intro hnil
    rw [hnil] at h
    cases h
  apply tokens?_run hne
  · intro c hc
    simp [isRunChar, isInner_of_isWord h c hc]
  · unfold charsToken?
    rw [if_pos h, String.ofList_toList]

theorem tokens?_number {text : String} (h : isNumeral text.toList) :
    tokens? (plain text) = some [.number text] := by
  have hne : text.toList ≠ [] := by
    intro hnil
    rw [hnil] at h
    cases h
  apply tokens?_run hne (isRunChar_of_isNumeral h)
  unfold charsToken?
  rw [if_neg (by simp [not_isWord_of_isNumeral h]), if_pos h, String.ofList_toList]

theorem tokens?_literal (content : List Char) :
    tokens? [.literal content] = some [.text content] := by
  apply tokens?_of_isChain
  · exact List.cons_ne_nil _ _
  · exact List.isChain_singleton _
  · rfl

/-! Parts with a delimiter between them. -/

def isLoose (c : Char) : Bool :=
  !isRunChar c && !isOperatorChar c

/-- The text begins and ends with a character that belongs to no word, numeral or operator. -/
def isDelimiter (text : String) : Bool :=
  text.toList.head?.any isLoose && text.toList.getLast?.any isLoose

theorem Apart.plain_left {mark : String} (h : mark.toList.getLast?.any isLoose) (qs : List Piece) :
    Apart (plain mark) qs := by
  have hlast : ∀ p ∈ (plain mark).getLast?, p.isRun = false ∧ p.isOperator = false := by
    intro p hp
    rw [plain, List.getLast?_map] at hp
    obtain ⟨c, hc, rfl⟩ := Option.map_eq_some_iff.1 hp
    rw [hc, Option.any_some, isLoose] at h
    simpa [Piece.isRun, Piece.isOperator] using h
  exact .of_end (fun p hp => (hlast p hp).1) (fun p hp => (hlast p hp).2)

theorem Apart.plain_right {mark : String} (h : mark.toList.head?.any isLoose) (ps qs : List Piece) :
    Apart ps (plain mark ++ qs) := by
  have hne : mark.toList ≠ [] := by
    intro hnil
    rw [hnil] at h
    cases h
  have hfirst : ∀ q ∈ (plain mark ++ qs).head?, q.isRun = false ∧ q.isOperator = false := by
    intro q hq
    obtain ⟨c, rest, hchars⟩ := List.exists_cons_of_ne_nil hne
    rw [plain, hchars] at hq
    obtain rfl := Option.some.inj hq
    rw [hchars, List.head?_cons, Option.any_some, isLoose] at h
    simpa [Piece.isRun, Piece.isOperator] using h
  exact .of_start (fun q hq => (hfirst q hq).1) (fun q hq => (hfirst q hq).2)

theorem tokens?_before {qs : List Piece} {mark : String} {us vs : List Token}
    (hlast : mark.toList.getLast?.any isLoose) (hmark : tokens? (plain mark) = some us)
    (hq : tokens? qs = some vs) : tokens? (plain mark ++ qs) = some (us ++ vs) :=
  tokens?_append hmark hq (.plain_left hlast qs)

theorem tokens?_after {ps : List Piece} {mark : String} {ts us : List Token}
    (hfirst : mark.toList.head?.any isLoose) (hp : tokens? ps = some ts)
    (hmark : tokens? (plain mark) = some us) : tokens? (ps ++ plain mark) = some (ts ++ us) := by
  have hapart := Apart.plain_right hfirst ps []
  rw [List.append_nil] at hapart
  exact tokens?_append hp hmark hapart

theorem tokens?_around {ps qs : List Piece} {mark : String} {ts us vs : List Token}
    (hdelimiter : isDelimiter mark) (hp : tokens? ps = some ts)
    (hmark : tokens? (plain mark) = some us) (hq : tokens? qs = some vs) :
    tokens? (ps ++ (plain mark ++ qs)) = some (ts ++ (us ++ vs)) := by
  rw [isDelimiter, Bool.and_eq_true] at hdelimiter
  exact tokens?_append hp (tokens?_before hdelimiter.2 hmark hq) (.plain_right hdelimiter.1 ps qs)

theorem tokens?_intercalate {mark : String} {us : List Token} {f : α → List Piece}
    {g : α → List Token} {items : List α} (hdelimiter : isDelimiter mark)
    (hmark : tokens? (plain mark) = some us)
    (h : ∀ item ∈ items, tokens? (f item) = some (g item)) :
    tokens? ((plain mark).intercalate (items.map f)) = some (us.intercalate (items.map g)) := by
  induction items with
  | nil => rfl
  | cons item rest ih =>
      have hitem := h item List.mem_cons_self
      have hrest := ih fun i hi => h i (List.mem_cons_of_mem _ hi)
      cases rest with
      | nil => simpa using hitem
      | cons next others =>
          -- The mark stands between the first part and all of the others together.
          rw [List.map_cons, List.map_cons, List.intercalate_cons_cons, List.map_cons,
            List.map_cons, List.intercalate_cons_cons, List.append_assoc, List.append_assoc]
          exact tokens?_around hdelimiter hitem hmark hrest

end CriteriaSql.Sql
