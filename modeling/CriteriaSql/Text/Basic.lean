/-! Operations on text: lower-casing, cutting, replacing, trimming and joining. -/

namespace CriteriaSql.Text

/-- Lower-cases the letters `A` to `Z` and nothing else. -/
def lower (s : String) : String :=
  String.ofList (s.toList.map Char.toLower)

/-- The pieces between the occurrences of a mark, empty ones included: one more than there are
marks. -/
def pieces (mark : Char) : List Char → List (List Char)
  | [] => [[]]
  | c :: rest =>
      if c = mark then
        [] :: pieces mark rest
      else
        match pieces mark rest with
        | [] => [[c]]
        | piece :: others => (c :: piece) :: others

/-- Writes `text` for every occurrence of `mark`. -/
def substitute (mark : Char) (text : List Char) (cs : List Char) : List Char :=
  cs.flatMap fun c => if c = mark then text else [c]

/-! White space, and trimming by it. -/

/-- The White_Space property of Unicode, all twenty-five code points of it. -/
def isBlank (c : Char) : Bool :=
  let n := c.toNat
  (0x09 ≤ n && n ≤ 0x0D) || n == 0x20 || n == 0x85 || n == 0xA0 || n == 0x1680 ||
    (0x2000 ≤ n && n ≤ 0x200A) || n == 0x2028 || n == 0x2029 || n == 0x202F ||
    n == 0x205F || n == 0x3000

def dropBlankEnd (cs : List Char) : List Char :=
  (cs.reverse.dropWhile isBlank).reverse

def trimEnd (s : String) : String :=
  String.ofList (dropBlankEnd s.toList)

def trim (s : String) : String :=
  String.ofList (dropBlankEnd (s.toList.dropWhile isBlank))

/-- Blanks at the end do not count, however many there are. -/
theorem trimEnd_append_blanks (s : String) {blanks : List Char} (h : ∀ c ∈ blanks, isBlank c) :
    trimEnd (s ++ String.ofList blanks) = trimEnd s := by
  have hreversed : ∀ c ∈ blanks.reverse, isBlank c := fun c hc => h c (List.mem_reverse.1 hc)
  unfold trimEnd dropBlankEnd
  rw [String.toList_append, String.toList_ofList, List.reverse_append,
    List.dropWhile_append_of_pos hreversed]

/-! Lists written with a separator: it follows every part, and the last one is taken off again. -/

/-- Takes `tail` off the end of `text` once, if `text` ends in it. -/
def dropTail (tail text : List Char) : List Char :=
  if tail.isSuffixOf text then text.take (text.length - tail.length) else text

def separated (separator : String) (parts : List String) : String :=
  let written := parts.foldl (fun text part => text ++ part ++ separator) ""
  String.ofList (dropTail separator.toList written.toList)

/-- The same for parts that are still to be rendered, first to last, in a monad that may fail or
keep state. -/
def separatedM {m : Type → Type u} [Monad m] {α : Type} (separator : String)
    (render : α → m String) (items : List α) : m String := do
  let parts ← items.mapM render
  return separated separator parts

theorem dropTail_append (text tail : List Char) : dropTail tail (text ++ tail) = text := by
  simp [dropTail]

end CriteriaSql.Text
