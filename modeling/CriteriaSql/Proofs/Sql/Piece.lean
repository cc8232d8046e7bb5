import CriteriaSql.Proofs.Text.Separated

/-!
Text as a reader of the dialect sees it, literals told from the statement around them. Reading
gives back what was written, as long as no literal follows another at once, and what was read is
written as it was.
-/

namespace CriteriaSql.Sql

inductive Piece where
  /-- A character of the statement itself. -/
  | char (c : Char)
  | literal (content : List Char)
  deriving DecidableEq

namespace Piece

def doubled (c : Char) : List Char :=
  if c = '\'' then ['\'', '\''] else [c]

def chars : Piece → List Char
  | char c => [c]
  | literal content => '\'' :: content.flatMap doubled ++ ['\'']

/-- Reads on from outside of literals, or from inside of one of which `content` has been read.
Outside, a quote opens a literal; inside, two quotes stand for one and a lone one closes it. -/
def read : (inside : Option (List Char)) → List Char → Option (List Piece)
  | none, [] => some []
  | none, '\'' :: rest => read (some []) rest
  | none, c :: rest => (read none rest).map (char c :: ·)
  | some _, [] => none
  | some content, '\'' :: '\'' :: rest => read (some (content ++ ['\''])) rest
  | some content, '\'' :: rest => (read none rest).map (literal content :: ·)
  | some content, c :: rest => read (some (content ++ [c])) rest

end Piece

/-- The pieces of a text, if it does not end inside a literal. -/
def pieces? (text : String) : Option (List Piece) :=
  Piece.read none text.toList

def written (pieces : List Piece) : List Char :=
  pieces.flatMap Piece.chars

/-- The contents of the literals, in order. -/
def contents (pieces : List Piece) : List (List Char) :=
  pieces.flatMap fun
    | .char _ => []
    | .literal content => [content]

/-- All that stands outside of literals, and where the literals stand. -/
def skeleton (pieces : List Piece) : List (Option Char) :=
  pieces.map fun
    | .char c => some c
    | .literal _ => none

/-- A statement's own text, without literals. -/
def plain (text : String) : List Piece :=
  text.toList.map .char

theorem plain_append (s t : String) : plain (s ++ t) = plain s ++ plain t := by
  rw [plain, String.toList_append, List.map_append]
  rfl

@[simp] theorem written_append (ps qs : List Piece) :
    written (ps ++ qs) = written ps ++ written qs :=
  List.flatMap_append

@[simp] theorem written_singleton (piece : Piece) : written [piece] = piece.chars :=
  List.flatMap_singleton _ _

@[simp] theorem written_plain (text : String) : written (plain text) = text.toList := by
  simp [written, plain, List.flatMap_map, Piece.chars]

@[simp] theorem contents_append (ps qs : List Piece) :
    contents (ps ++ qs) = contents ps ++ contents qs :=
  List.flatMap_append

@[simp] theorem contents_plain (text : String) : contents (plain text) = [] := by
  simp [contents, plain, List.flatMap_map]

@[simp] theorem contents_literal (content : List Char) :
    contents [.literal content] = [content] := rfl

@[simp] theorem skeleton_append (ps qs : List Piece) :
    skeleton (ps ++ qs) = skeleton ps ++ skeleton qs :=
  List.map_append

@[simp] theorem skeleton_literal (content : List Char) :
    skeleton [.literal content] = [none] := rfl

theorem written_intercalate (separator : List Piece) (parts : List (List Piece)) :
    written (separator.intercalate parts) =
      (written separator).intercalate (parts.map written) :=
  Text.intercalate_hom rfl written_append _ _

theorem contents_intercalate_plain (separator : String) (parts : List (List Piece)) :
    contents ((plain separator).intercalate parts) = (parts.map contents).flatten := by
  rw [Text.intercalate_hom (f := contents) rfl contents_append, contents_plain,
    Text.nil_intercalate]

theorem skeleton_intercalate (separator : List Piece) (parts : List (List Piece)) :
    skeleton (separator.intercalate parts) =
      (skeleton separator).intercalate (parts.map skeleton) :=
  Text.intercalate_hom rfl skeleton_append _ _

/-! Fragments: text that is read the same whatever stands before it. -/

/-- Outside of literals there are no quotes, and each literal comes right after a character. -/
inductive Fragment : List Piece → Prop where
  | nil : Fragment []
  | char {c : Char} {rest : List Piece} (hc : c ≠ '\'') (hrest : Fragment rest) :
      Fragment (.char c :: rest)
  | literal {c : Char} {content : List Char} {rest : List Piece} (hc : c ≠ '\'')
      (hrest : Fragment rest) : Fragment (.char c :: .literal content :: rest)

namespace Fragment

theorem append {ps qs : List Piece} (hp : Fragment ps) (hq : Fragment qs) :
    Fragment (ps ++ qs) := by
  induction hp with
  | nil => exact hq
  | char hc _ ih => exact .char hc ih
  | literal hc _ ih => exact .literal hc ih

theorem of_chars {cs : List Char} (h : '\'' ∉ cs) : Fragment (cs.map .char) := by
  induction cs with
  | nil => exact .nil
  | cons c rest ih =>
      rw [List.mem_cons, not_or] at h
      exact .char (Ne.symm h.1) (ih h.2)

theorem plain {text : String} (h : '\'' ∉ text.toList) : Fragment (plain text) :=
  of_chars h

/-- A literal may follow a text that is not empty. -/
theorem plain_literal {text : String} (h : '\'' ∉ text.toList) (hne : text.toList ≠ [])
    (content : List Char) : Fragment (Sql.plain text ++ [.literal content]) := by
  -- The literal comes after the last character, so that one goes with it.
  have hlast := List.dropLast_concat_getLast hne
  rw [← hlast, List.mem_append, List.mem_singleton, not_or] at h
  rw [Sql.plain, ← hlast, List.map_append, List.append_assoc]
  exact (of_chars h.1).append (.literal (Ne.symm h.2) .nil)

theorem intercalate {separator : List Piece} {parts : List (List Piece)}
    (hseparator : Fragment separator) (hparts : ∀ part ∈ parts, Fragment part) :
    Fragment (separator.intercalate parts) :=
  Text.intercalate_closed .nil append hseparator hparts

theorem intercalate_map {f : α → List Piece} {separator : List Piece} {items : List α}
    (hseparator : Fragment separator) (h : ∀ item ∈ items, Fragment (f item)) :
    Fragment (separator.intercalate (items.map f)) := by
  apply intercalate hseparator
  intro part hpart
  obtain ⟨item, hitem, rfl⟩ := List.mem_map.1 hpart
  exact h item hitem

/-- No fragment begins with a quote, so the quote that closes a literal before it stays alone. -/
theorem head?_written {ps : List Piece} (h : Fragment ps) :
    (written ps).head? ≠ some '\'' := by
  cases h with
  | nil => simp [written]
  | char hc _ => simpa [written, Piece.chars] using hc
  | literal hc _ => simpa [written, Piece.chars] using hc

end Fragment

namespace Piece

theorem read_char {c : Char} (hc : c ≠ '\'') (rest : List Char) :
    read none (c :: rest) = (read none rest).map (char c :: ·) := by
  rw [read]
  exact hc

theorem read_close {rest : List Char} (hrest : rest.head? ≠ some '\'') (content : List Char) :
    read (some content) ('\'' :: rest) = (read none rest).map (literal content :: ·) := by
  rw [read]
  rintro others rfl
  exact hrest rfl

theorem read_inside {c : Char} (hc : c ≠ '\'') (content rest : List Char) :
    read (some content) (c :: rest) = read (some (content ++ [c])) rest := by
  rw [read]
  · intro others h _
    exact hc h
  · exact hc

/-- From inside of a literal its remaining content is read, up to the quote that closes it. -/
theorem read_content {rest : List Char} (hrest : rest.head? ≠ some '\'')
    (before content : List Char) :
    read (some before) (content.flatMap doubled ++ '\'' :: rest) =
      (read none rest).map (literal (before ++ content) :: ·) := by
  induction content generalizing before with
  | nil => rw [List.flatMap_nil, List.nil_append, read_close hrest, List.append_nil]
  | cons c others ih =>
      rw [List.flatMap_cons]
      have hnext := ih (before ++ [c])
      rw [List.append_assoc, List.singleton_append] at hnext
      by_cases hc : c = '\''
      · subst hc
        exact hnext
      · rw [doubled, if_neg hc]
        exact (read_inside hc _ _).trans hnext

end Piece

/-- Reading gives back the pieces of a fragment, and ends outside of literals. -/
theorem read_written {ps : List Piece} (h : Fragment ps) :
    Piece.read none (written ps) = some ps := by
  induction h with
  | nil => rfl
  | @char c rest hc _ ih =>
      show Piece.read none (c :: written rest) = _
      rw [Piece.read_char hc, ih, Option.map_some]
  | @literal c content rest hc hrest ih =>
      have hwritten : written (.char c :: .literal content :: rest) =
          c :: '\'' :: (content.flatMap Piece.doubled ++ '\'' :: written rest) := by
        simp [written, Piece.chars]
      rw [hwritten, Piece.read_char hc, Piece.read,
        Piece.read_content hrest.head?_written, ih]
      rfl

theorem pieces?_ofList_written {ps : List Piece} (h : Fragment ps) :
    pieces? (String.ofList (written ps)) = some ps := by
  rw [pieces?, String.toList_ofList, read_written h]

/-! From what was read back to the text. -/

namespace Piece

/-- What has been read of a literal that is still open, from the quote on that opens it. -/
def begun : (inside : Option (List Char)) → List Char
  | none => []
  | some content => '\'' :: content.flatMap doubled

theorem begun_concat (content : List Char) (c : Char) :
    begun (some (content ++ [c])) = begun (some content) ++ doubled c := by
  rw [begun, begun, List.flatMap_append, List.flatMap_singleton, List.cons_append]

end Piece

/-- Nothing is lost in reading: the pieces are written as the text that they were read from. -/
theorem written_of_read {inside : Option (List Char)} {text : List Char} {ps : List Piece}
    (h : Piece.read inside text = some ps) : written ps = Piece.begun inside ++ text := by
  -- Along the reading: each step moves what it reads from the text to the open literal.
  fun_induction Piece.read inside text generalizing ps with
  | case1 =>
      obtain rfl := Option.some.inj h
      rfl
  | case2 rest ih => exact ih h
  | case3 c rest hc ih =>
      obtain ⟨qs, hqs, rfl⟩ := Option.map_eq_some_iff.1 h
      exact congrArg (c :: ·) (ih hqs)
  | case4 content => cases h
  | case5 content rest ih =>
      rw [ih h, Piece.begun_concat, List.append_assoc]
      rfl
  | case6 content rest hrest ih =>
      obtain ⟨qs, hqs, rfl⟩ := Option.map_eq_some_iff.1 h
      show Piece.chars (.literal content) ++ written qs = _
      rw [ih hqs, Piece.chars, List.append_assoc]
      rfl
  | case7 content c rest hpair hc ih =>
      have hdoubled : Piece.doubled c = [c] := if_neg hc
      rw [ih h, Piece.begun_concat, hdoubled, List.append_assoc]
      rfl

/-- A text is read as one literal, with nothing around it, exactly if it is written as that
literal. -/
theorem pieces?_eq_literal_iff {text : String} {content : List Char} :
    pieces? text = some [.literal content] ↔ text.toList = (Piece.literal content).chars := by
  constructor
  · intro h
    have hwritten := written_of_read h
    rw [written_singleton] at hwritten
    exact hwritten.symm
  · intro h
    have hend : ([] : List Char).head? ≠ some '\'' := by simp
    rw [pieces?, h]
    exact Piece.read_content hend [] content

end CriteriaSql.Sql
