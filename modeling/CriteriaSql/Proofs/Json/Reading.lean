import CriteriaSql.Json.Printer
import CriteriaSql.Json.Reader
import CriteriaSql.Proofs.Text.Separated

/-!
What is printed is read again, whatever comes after it: strings with all that is escaped in them,
and lists of items that are read again themselves.
-/

namespace CriteriaSql.Json

/-! Strings. -/

/-- How a character is written inside a string. -/
def elementOf (c : Char) : Element :=
  if c.toNat < 0x20 ∧ c ∉ ['\x08', '\x0c', '\n', '\r', '\t'] then .unit c.toNat else .char c

theorem fourHex?_hexDigit : ∀ n < 0x20,
    fourHex? '0' '0' (hexDigit (n / 16)) (hexDigit n) = some n := by
  decide

/-- What an element adds to the elements after it. -/
def addElement (element : Element) (read : List Element × List Char) : List Element × List Char :=
  (element :: read.1, read.2)

theorem elements_plain {c : Char} (hquote : c ≠ '"') (hescape : c ≠ '\\')
    (hcontrol : ¬ c.toNat < 0x20) (cs : List Char) :
    elements (c :: cs) = (elements cs).map (addElement (.char c)) := by
  rw [elements]
  · rw [if_neg hcontrol]
    cases elements cs <;> rfl
  · exact hquote
  · exact fun _ _ _ _ _ h _ => hescape h
  · exact fun _ _ h _ => hescape h

theorem elements_escaped {code c : Char} (hcode : code ≠ 'u') (h : escaped? code = some c)
    (cs : List Char) :
    elements ('\\' :: code :: cs) = (elements cs).map (addElement (.char c)) := by
  rw [elements]
  · rw [h]
    cases elements cs <;> rfl
  · exact fun _ _ _ _ _ hu _ => hcode hu

theorem elements_unit {n : Nat} (h : n < 0x20) (cs : List Char) :
    elements ('\\' :: 'u' :: '0' :: '0' :: hexDigit (n / 16) :: hexDigit n :: cs) =
      (elements cs).map (addElement (.unit n)) := by
  rw [elements, fourHex?_hexDigit n h]
  cases elements cs <;> rfl

theorem elements_escapeChar (c : Char) (cs : List Char) :
    elements (escapeChar c ++ cs) = (elements cs).map (addElement (elementOf c)) := by
  -- Quote, backslash and five control characters have an escape of their own, and the other control
  -- characters are escaped by their numbers.
  by_cases hquote : c = '"'
  · subst hquote
    exact elements_escaped (by decide) rfl cs
  by_cases hescape : c = '\\'
  · subst hescape
    exact elements_escaped (by decide) rfl cs
  by_cases hnamed : c ∈ ['\x08', '\x0c', '\n', '\r', '\t']
  · simp only [List.mem_cons, List.not_mem_nil, or_false] at hnamed
    rcases hnamed with rfl | rfl | rfl | rfl | rfl
    all_goals exact elements_escaped (by decide) rfl cs
  have hothers : ∀ other ∈ ['\x08', '\x0c', '\n', '\r', '\t'], c ≠ other := by
    rintro other hmem rfl
    exact hnamed hmem
  simp only [List.forall_mem_cons] at hothers
  obtain ⟨hb, hf, hn, hr, ht, -⟩ := hothers
  unfold escapeChar elementOf
  rw [if_neg hquote, if_neg hescape, if_neg hb, if_neg hf, if_neg hn, if_neg hr, if_neg ht]
  by_cases hcontrol : c.toNat < 0x20
  · rw [if_pos hcontrol, if_pos ⟨hcontrol, hnamed⟩]
    exact elements_unit hcontrol cs
  · rw [if_neg hcontrol, if_neg fun h => hcontrol h.1]
    exact elements_plain hquote hescape hcontrol cs

/-- What is no half of a pair stands for itself, also before one. -/
theorem assemble_unit {n : Nat} (h : n < 0xD800) (parts : List Element) :
    assemble (.unit n :: parts) = (assemble parts).map (Char.ofNat n :: ·) := by
  have hhigh : isHighSurrogate n = false := by
    simp only [isHighSurrogate, Bool.and_eq_false_iff, decide_eq_false_iff_not]
    omega
  have hlow : isLowSurrogate n = false := by
    simp only [isLowSurrogate, Bool.and_eq_false_iff, decide_eq_false_iff_not]
    omega
  rcases parts with _ | ⟨d | low, rest⟩
  · simp [assemble, hhigh, hlow]
  · simp only [assemble, hhigh, hlow]
    cases assemble rest <;> rfl
  · rw [assemble, hhigh, hlow]
    cases assemble (.unit low :: rest) <;> rfl

theorem assemble_elementOf (c : Char) (parts : List Element) :
    assemble (elementOf c :: parts) = (assemble parts).map (c :: ·) := by
  unfold elementOf
  by_cases hcontrol : c.toNat < 0x20 ∧ c ∉ ['\x08', '\x0c', '\n', '\r', '\t']
  · rw [if_pos hcontrol, assemble_unit (by omega), Char.ofNat_toNat]
  · rw [if_neg hcontrol, assemble]
    cases assemble parts <;> rfl

theorem toList_quoted (s : String) :
    (quoted s).toList = '"' :: (s.toList.flatMap escapeChar ++ ['"']) := by
  rw [quoted, String.toList_ofList]
  rfl

theorem readString_quoted (s : String) (rest : List Char) :
    readString ((quoted s).toList ++ rest) = some (s, rest) := by
  have helements : ∀ cs : List Char,
      elements (cs.flatMap escapeChar ++ '"' :: rest) = some (cs.map elementOf, rest) := by
    intro cs
    induction cs with
    | nil => rfl
    | cons c cs ih =>
        rw [List.flatMap_cons, List.append_assoc, elements_escapeChar, ih]
        rfl
  have hassemble : ∀ cs : List Char, assemble (cs.map elementOf) = some cs := by
    intro cs
    induction cs with
    | nil => rfl
    | cons c cs ih =>
        rw [List.map_cons, assemble_elementOf, ih]
        rfl
  rw [toList_quoted, List.cons_append, List.append_assoc, List.singleton_append, readString,
    helements]
  show (assemble (s.toList.map elementOf) >>= _) = _
  rw [hassemble]
  show some (String.ofList s.toList, rest) = _
  rw [String.ofList_toList]

/-! Values without other values in them. -/

/-- Neither a number nor anything with brackets. -/
def IsPlain : Json → Prop
  | null => True
  | bool _ => True
  | string _ => True
  | number _ => False
  | array _ => False
  | object _ => False

theorem read_compact {value : Json} (h : value.IsPlain) (depth : Nat) (rest : List Char) :
    read depth (value.compact.toList ++ rest) = some (value, rest) := by
  have hwith : ∀ nested, readWith nested (value.compact.toList ++ rest) = some (value, rest) := by
    intro nested
    cases value with
    | null => rw [compact]; rfl
    | bool b => cases b <;> (rw [compact]; rfl)
    | string s =>
        have hread := readString_quoted s rest
        rw [toList_quoted, List.cons_append] at hread
        rw [compact, toList_quoted, List.cons_append]
        show (readString ('"' :: (s.toList.flatMap escapeChar ++ ['"'] ++ rest))).map _ = _
        rw [hread]
        rfl
    | _ => cases h
  cases depth with
  | zero => exact hwith none
  | succ depth => exact hwith (some (read depth))

theorem compact_start {value : Json} (h : value.IsPlain) :
    ∃ c cs, value.compact.toList = c :: cs ∧ c ∈ ['n', 't', 'f', '"'] := by
  cases value with
  | null => rw [compact]; exact ⟨_, _, rfl, by decide⟩
  | bool b => cases b <;> (rw [compact]; exact ⟨_, _, rfl, by decide⟩)
  | string s => rw [compact]; exact ⟨_, _, toList_quoted s, by decide⟩
  | _ => cases h

/-! Lists of items that are read again themselves. -/

theorem skipSpace_cons {c : Char} (h : isSpace c = false) (cs : List Char) :
    skipSpace (c :: cs) = c :: cs :=
  List.dropWhile_cons_of_neg (by simp [h])

section

variable {close : Char} {item : List Char → Option (β × List Char)} {cs rest : List Char}
  {first : β} {bound : Nat}

theorem itemsUpTo_last (hclose : isSpace close = false)
    (h : item cs = some (first, close :: rest)) :
    itemsUpTo close item (bound + 1) cs = some ([first], rest) := by
  rw [itemsUpTo, h]
  simp only [Option.bind_eq_bind, Option.bind_some, skipSpace_cons hclose]
  exact if_pos trivial

theorem itemsUpTo_more (hcomma : ',' ≠ close) (h : item cs = some (first, ',' :: rest)) :
    itemsUpTo close item (bound + 1) cs =
      (itemsUpTo close item bound rest).map fun (more, rest) => (first :: more, rest) := by
  rw [itemsUpTo, h]
  show (if ',' = close then _ else if ',' = ',' then _ else _) = _
  rw [if_neg hcomma, if_pos rfl]
  cases itemsUpTo close item bound rest <;> rfl

end

section

variable {close : Char} {item : List Char → Option (β × List Char)} {text : α → List Char}
  {value : α → β} (hclose : isSpace close = false) (hcomma : ',' ≠ close) {items : List α}
  (hne : items ≠ [])
  (hitem : ∀ source ∈ items, ∀ rest, item (text source ++ rest) = some (value source, rest))

include hclose hcomma hne hitem

theorem itemsUpTo_intercalate {bound : Nat} (hbound : items.length ≤ bound) (rest : List Char) :
    itemsUpTo close item bound ([','].intercalate (items.map text) ++ close :: rest) =
      some (items.map value, rest) := by
  induction items generalizing bound with
  | nil => exact absurd rfl hne
  | cons first others ih =>
      obtain ⟨fewer, rfl⟩ : ∃ fewer, bound = fewer + 1 :=
        Nat.exists_eq_add_one_of_ne_zero (by simp at hbound; omega)
      have hfirst := hitem first List.mem_cons_self
      cases others with
      | nil =>
          rw [List.map_singleton, List.intercalate_singleton]
          exact itemsUpTo_last hclose (hfirst (close :: rest))
      | cons second more =>
          have hothers : itemsUpTo close item fewer
              ([','].intercalate ((second :: more).map text) ++ close :: rest) =
              some ((second :: more).map value, rest) :=
            ih (by simp) (fun source hmem => hitem source (List.mem_cons_of_mem _ hmem))
              (by simpa using hbound)
          have hsplit : [','].intercalate ((first :: second :: more).map text) ++ close :: rest =
              text first ++ ',' ::
                ([','].intercalate ((second :: more).map text) ++ close :: rest) := by
            rw [List.map_cons, List.intercalate_cons_of_ne_nil (by simp)]
            simp only [List.append_assoc, List.cons_append, List.nil_append]
          rw [hsplit, itemsUpTo_more hcomma (hfirst _), hothers]
          rfl

/-- Nothing is printed between the bracket and the first item. -/
theorem itemsWithin_intercalate
    (hstart : ∀ source ∈ items, ∃ c cs, text source = c :: cs ∧ isSpace c = false ∧ c ≠ close)
    (rest : List Char) :
    itemsWithin close item ([','].intercalate (items.map text) ++ close :: rest) =
      some (items.map value, rest) := by
  -- The bound on the items is the length of what is ahead, closing bracket included.
  have hlength : items.length ≤
      ([','].intercalate (items.map text) ++ close :: rest).length := by
    have hparts := Text.length_le_length_intercalate ',' (items.map text)
    rw [List.length_map] at hparts
    rw [List.length_append, List.length_cons]
    omega
  have hall := itemsUpTo_intercalate hclose hcomma hne hitem hlength rest
  obtain ⟨first, others, rfl⟩ := List.exists_cons_of_ne_nil hne
  obtain ⟨c, cs, htext, hspace, hopen⟩ := hstart first List.mem_cons_self
  obtain ⟨tail, htail⟩ : ∃ tail,
      [','].intercalate ((first :: others).map text) ++ close :: rest = c :: tail := by
    cases others with
    | nil =>
        rw [List.map_singleton, List.intercalate_singleton, htext]
        exact ⟨_, rfl⟩
    | cons second more =>
        rw [List.map_cons, List.intercalate_cons_of_ne_nil (by simp), htext]
        exact ⟨_, rfl⟩
  rw [itemsWithin, htail, skipSpace_cons hspace]
  show (if c = close then _ else _) = _
  rw [if_neg hopen, ← htail]
  exact hall

end

end CriteriaSql.Json
