import CriteriaSql.Config
import CriteriaSql.Proofs.Text.Pieces
import Mathlib.Data.List.Forall2
import Mathlib.Data.List.TakeWhile

/-!
Connection strings, and what can be seen of their secrets when they are shown: nothing, as long as
no secret has a semicolon in it. All that is no secret is shown as it is.
-/

namespace CriteriaSql.Connection

/-! Connection strings and their parts. -/

/-- Braces may enclose semicolons. Between them a closing brace is written twice. -/
inductive Value where
  | bare (text : String) (proper : ';' ∉ text.toList ∧ text.toList.head? ≠ some '{')
  | braced (content : String)

def Value.chars : Value → List Char
  | bare text _ => text.toList
  | braced content => '{' :: Text.substitute '}' ['}', '}'] content.toList ++ ['}']

structure Setting where
  key : String
  value : Value
  proper : '=' ∉ key.toList ∧ ';' ∉ key.toList

namespace Setting

def chars (setting : Setting) : List Char :=
  setting.key.toList ++ '=' :: setting.value.chars

def IsSecret (setting : Setting) : Prop :=
  Text.lower (Text.trim setting.key) ∈ ["pwd", "password"]

instance (setting : Setting) : Decidable setting.IsSecret :=
  inferInstanceAs (Decidable (_ ∈ _))

theorem IsSecret.of_key_eq {a b : Setting} (h : a.IsSecret) (hkey : a.key = b.key) :
    b.IsSecret := by
  rwa [IsSecret, ← hkey]

end Setting

/-- What stands between two semicolons: a setting, or what is none, such as nothing at all after
the last semicolon. -/
inductive Part where
  | pair (setting : Setting)
  | other (text : String) (proper : '=' ∉ text.toList ∧ ';' ∉ text.toList)

namespace Part

def chars : Part → List Char
  | pair setting => setting.chars
  | other text _ => text.toList

/-- The same part, but that a secret may have another value. -/
inductive Alike : Part → Part → Prop where
  | refl (part : Part) : Alike part part
  | secret {a b : Setting} (hkey : a.key = b.key) (hsecret : a.IsSecret) :
      Alike (.pair a) (.pair b)

/-- If the part is a secret, its value has no semicolon. -/
def IsWhole : Part → Prop
  | pair setting => setting.IsSecret → ';' ∉ setting.value.chars
  | other _ _ => True

instance : (part : Part) → Decidable part.IsWhole
  | pair _ => inferInstanceAs (Decidable (_ → _))
  | other _ _ => .isTrue trivial

/-- The pieces that are shown of a part. -/
def shown (part : Part) : List (List Char) :=
  (part.chars.splitOn ';').map maskPart

end Part

def written (parts : List Part) : String :=
  String.ofList ([';'].intercalate (parts.map Part.chars))

/-! Masking. -/

/-- A secret's key, with whatever blanks around it and in whatever mixture of cases. -/
def NamesSecret (key : List Char) : Prop :=
  Text.lower (Text.trim (String.ofList key)) ∈ ["pwd", "password"]

theorem isSecretKey_iff (key : List Char) : isSecretKey key = true ↔ NamesSecret key := by
  simp [isSecretKey, NamesSecret]

theorem Setting.namesSecret_iff {setting : Setting} :
    NamesSecret setting.key.toList ↔ setting.IsSecret := by
  rw [NamesSecret, String.ofList_toList, IsSecret]

/-- The first equals sign ends the key. -/
theorem maskPart_pair {key : List Char} (h : '=' ∉ key) (value : List Char) :
    maskPart (key ++ '=' :: value) =
      if isSecretKey key then key ++ "=***".toList else key ++ '=' :: value := by
  have hkey : (key ++ '=' :: value).takeWhile (· != '=') = key := by
    rw [List.takeWhile_append_of_pos]
    · simp
    · intro c hc
      exact bne_iff_ne.2 fun heq => h (heq ▸ hc)
  rw [maskPart, hkey]
  simp

theorem maskPart_other {part : List Char} (h : '=' ∉ part) : maskPart part = part := by
  have hkey : part.takeWhile (· != '=') = part :=
    List.takeWhile_eq_self_iff.2 fun c hc => bne_iff_ne.2 fun heq => h (heq ▸ hc)
  rw [maskPart, hkey]
  simp

theorem semicolon_notMem_maskPart {part : List Char} (h : ';' ∉ part) : ';' ∉ maskPart part := by
  have hkey : ';' ∉ part.takeWhile (· != '=') :=
    fun hmem => h (List.takeWhile_subset _ hmem)
  simp only [maskPart]
  split
  · simp [hkey]
  · exact h

theorem toList_maskText (text : String) :
    (maskText text).toList = [';'].intercalate ((text.toList.splitOn ';').map maskPart) := by
  rw [maskText, String.toList_ofList, Text.pieces_eq_splitOn]

/-- What is shown has the same pieces, masked one by one. -/
theorem splitOn_maskText (text : String) :
    (maskText text).toList.splitOn ';' = (text.toList.splitOn ';').map maskPart := by
  rw [toList_maskText]
  apply List.splitOn_intercalate
  · intro piece hpiece
    obtain ⟨part, hpart, rfl⟩ := List.mem_map.1 hpiece
    exact semicolon_notMem_maskPart (Text.notMem_of_mem_splitOn hpart)
  · simp

theorem maskText_eq_iff {s t : String} :
    maskText s = maskText t ↔
      (s.toList.splitOn ';').map maskPart = (t.toList.splitOn ';').map maskPart := by
  constructor
  · intro h
    rw [← splitOn_maskText, h, splitOn_maskText]
  · intro h
    rw [← String.toList_inj, toList_maskText, toList_maskText, h]

theorem splitOn_written {parts : List Part} (hne : parts ≠ []) :
    ((written parts).toList.splitOn ';').map maskPart = parts.flatMap Part.shown := by
  have hchars : parts.map Part.chars ≠ [] := by simpa using hne
  rw [written, String.toList_ofList, Text.splitOn_intercalate_eq_flatMap hchars, List.flatMap_map,
    List.map_flatMap]
  rfl

namespace Part

theorem length_shown (part : Part) : part.shown.length = part.chars.count ';' + 1 := by
  rw [shown, List.length_map, Text.length_splitOn]

/-- Of a secret without semicolons nothing but its key is shown. -/
theorem shown_secret {setting : Setting} (hsecret : setting.IsSecret)
    (h : ';' ∉ setting.value.chars) :
    shown (.pair setting) = [setting.key.toList ++ "=***".toList] := by
  have hchars : ';' ∉ setting.chars := by
    simp [Setting.chars, setting.proper.2, h]
  have hkey : isSecretKey setting.key.toList :=
    (isSecretKey_iff _).2 (Setting.namesSecret_iff.2 hsecret)
  rw [shown, chars, List.splitOn_eq_singleton hchars, List.map_singleton, Setting.chars,
    maskPart_pair setting.proper.1, if_pos hkey]

theorem count_secret (setting : Setting) :
    (chars (.pair setting)).count ';' = setting.value.chars.count ';' := by
  have hkey : setting.key.toList.count ';' = 0 := List.count_eq_zero.2 setting.proper.2
  show (setting.key.toList ++ '=' :: setting.value.chars).count ';' = _
  rw [List.count_append, hkey, List.count_cons_of_ne (by decide), Nat.zero_add]

namespace Alike

variable {p q : Part}

theorem isWhole_of_eq (h : Alike p q) (hq : q.IsWhole)
    (hcount : p.chars.count ';' = q.chars.count ';') : p.IsWhole := by
  cases h with
  | refl => exact hq
  | @secret a b hkey hsecret =>
      have hb := hsecret.of_key_eq hkey
      rw [count_secret, count_secret, List.count_eq_zero.2 (hq hb)] at hcount
      exact fun _ => List.count_eq_zero.1 hcount

theorem count_le (h : Alike p q) (hq : q.IsWhole) :
    q.chars.count ';' ≤ p.chars.count ';' := by
  cases h with
  | refl => exact Nat.le_refl _
  | @secret a b hkey hsecret =>
      have hb := hsecret.of_key_eq hkey
      rw [count_secret, count_secret, List.count_eq_zero.2 (hq hb)]
      exact Nat.zero_le _

theorem shown_eq (h : Alike p q) (hp : p.IsWhole) (hq : q.IsWhole) : p.shown = q.shown := by
  cases h with
  | refl => rfl
  | @secret a b hkey hsecret =>
      have hb := hsecret.of_key_eq hkey
      rw [shown_secret hsecret (hp hsecret), shown_secret hb (hq hb), hkey]

end Alike

end Part

section

variable {parts others : List Part} (halike : List.Forall₂ Part.Alike parts others)
    (hothers : ∀ part ∈ others, part.IsWhole)

include halike hothers

theorem flatMap_shown_eq (hparts : ∀ part ∈ parts, part.IsWhole) :
    parts.flatMap Part.shown = others.flatMap Part.shown := by
  induction halike with
  | nil => rfl
  | cons h _ ih =>
      rw [List.forall_mem_cons] at hparts hothers
      rw [List.flatMap_cons, List.flatMap_cons, h.shown_eq hparts.1 hothers.1,
        ih hothers.2 hparts.2]

theorem length_shown_le :
    (others.flatMap Part.shown).length ≤ (parts.flatMap Part.shown).length := by
  induction halike with
  | nil => exact Nat.le_refl 0
  | @cons p q ps qs h _ ih =>
      rw [List.forall_mem_cons] at hothers
      have hcount := h.count_le hothers.1
      have hrest := ih hothers.2
      rw [List.flatMap_cons, List.flatMap_cons, List.length_append, List.length_append,
        Part.length_shown, Part.length_shown]
      omega

/-- Every semicolon in a secret is one more piece that is shown. -/
theorem isWhole_of_length_shown
    (hlength : (parts.flatMap Part.shown).length = (others.flatMap Part.shown).length) :
    ∀ part ∈ parts, part.IsWhole := by
  induction halike with
  | nil => exact List.forall_mem_nil _
  | @cons p q ps qs h hrest ih =>
      rw [List.forall_mem_cons] at hothers
      have hcount := h.count_le hothers.1
      have hle := length_shown_le hrest hothers.2
      rw [List.flatMap_cons, List.flatMap_cons, List.length_append, List.length_append,
        Part.length_shown, Part.length_shown] at hlength
      exact List.forall_mem_cons.2
        ⟨h.isWhole_of_eq hothers.1 (by omega), ih hothers.2 (by omega)⟩

end

/-- Of two connection strings that differ in their secrets only, where the one has no semicolon in
a secret, the other is shown alike if and only if it has none either. A masked value ends at a
semicolon, even at one that is enclosed in braces. -/
theorem redacted_eq_iff {parts others : List Part}
    (halike : List.Forall₂ Part.Alike parts others) (hothers : ∀ part ∈ others, part.IsWhole) :
    redacted ⟨some (written parts)⟩ = redacted ⟨some (written others)⟩ ↔
      ∀ part ∈ parts, part.IsWhole := by
  have htext : redacted ⟨some (written parts)⟩ = redacted ⟨some (written others)⟩ ↔
      maskText (written parts) = maskText (written others) := Option.some_inj
  rw [htext, maskText_eq_iff]
  cases parts with
  | nil =>
      cases halike
      simp
  | cons part rest =>
      have hne : others ≠ [] := by
        rintro rfl
        cases halike
      rw [splitOn_written (List.cons_ne_nil _ _), splitOn_written hne]
      constructor
      · intro h
        exact isWhole_of_length_shown halike hothers (congrArg List.length h)
      · exact flatMap_shown_eq halike hothers

/-- An equals sign in a secret gives nothing away, nor do braces or blanks around the key. -/
theorem redacted_eq_enclosed :
    redacted ⟨some "DSN=Demodata; Pwd =\x7bx=y\x7d;"⟩ =
      redacted ⟨some "DSN=Demodata; Pwd =s3cret;"⟩ := by
  have hiff := @redacted_eq_iff
    [.pair ⟨"DSN", .bare "Demodata" (by decide), by decide⟩,
      .pair ⟨" Pwd ", .braced "x=y", by decide⟩, .other "" (by decide)]
    [.pair ⟨"DSN", .bare "Demodata" (by decide), by decide⟩,
      .pair ⟨" Pwd ", .bare "s3cret" (by decide), by decide⟩, .other "" (by decide)]
    (.cons (.refl _) (.cons (.secret rfl (by decide)) (.cons (.refl _) .nil))) (by decide)
  exact hiff.2 (by decide)

/-- Again the secrets are all that differs, but of the one in braces the end is shown. -/
theorem redacted_ne_enclosed :
    List.Forall₂ Part.Alike [.pair ⟨"PWD", .braced "a;b", by decide⟩]
        [.pair ⟨"PWD", .bare "x" (by decide), by decide⟩] ∧
      written [.pair ⟨"PWD", .braced "a;b", by decide⟩] = "PWD=\x7ba;b\x7d" ∧
      written [.pair ⟨"PWD", .bare "x" (by decide), by decide⟩] = "PWD=x" ∧
      redacted ⟨some "PWD=\x7ba;b\x7d"⟩ = some "PWD=***;b\x7d" ∧
      redacted ⟨some "PWD=x"⟩ = some "PWD=***" := by
  refine ⟨.cons (.secret rfl (by decide)) .nil, ?_⟩
  decide

/-! What masking leaves alone. -/

/-- What is shown of a part: the key, if it is a secret's, and otherwise the part as it is. -/
structure ShownAs (part shown : List Char) : Prop where
  secret : ∀ key value, part = key ++ '=' :: value → '=' ∉ key → NamesSecret key →
    shown = key ++ "=***".toList
  other : (∀ key value, part = key ++ '=' :: value → '=' ∉ key → ¬ NamesSecret key) →
    shown = part

theorem shownAs_maskPart (part : List Char) : ShownAs part (maskPart part) where
  secret key value hpart hkey hsecret := by
    rw [hpart, maskPart_pair hkey, if_pos ((isSecretKey_iff key).2 hsecret)]
  other h := by
    by_cases hequals : '=' ∈ part
    · obtain ⟨key, value, rfl, hkey⟩ := List.eq_append_cons_of_mem hequals
      have hother : ¬ isSecretKey key = true :=
        mt (isSecretKey_iff key).1 (h key value rfl hkey)
      rw [maskPart_pair hkey, if_neg hother]
    · exact maskPart_other hequals

/-- A masked part has the same key, so that it is judged alike. -/
theorem maskPart_maskPart (part : List Char) : maskPart (maskPart part) = maskPart part := by
  by_cases hequals : '=' ∈ part
  · obtain ⟨key, value, rfl, hkey⟩ := List.eq_append_cons_of_mem hequals
    have hmasked : "=***".toList = '=' :: "***".toList := by decide
    by_cases hsecret : isSecretKey key
    · rw [maskPart_pair hkey, if_pos hsecret, hmasked, maskPart_pair hkey, if_pos hsecret, hmasked]
    · rw [maskPart_pair hkey, if_neg hsecret, maskPart_pair hkey, if_neg hsecret]
  · rw [maskPart_other hequals, maskPart_other hequals]

theorem maskText_maskText (text : String) : maskText (maskText text) = maskText text := by
  rw [maskText_eq_iff, splitOn_maskText, List.map_map]
  exact List.map_congr_left fun part _ => maskPart_maskPart part

/-- Part by part, and with no part more or less, what is shown is the key of a secret or the part as
it is, and what is shown already is shown as it is. -/
theorem redacted_touches_secrets (text : String) :
    ∃ shown, redacted ⟨some text⟩ = some shown ∧
      List.Forall₂ ShownAs (text.toList.splitOn ';') (shown.toList.splitOn ';') ∧
      redacted ⟨some shown⟩ = some shown := by
  refine ⟨maskText text, rfl, ?_, congrArg some (maskText_maskText text)⟩
  rw [splitOn_maskText, List.forall₂_map_right_iff, List.forall₂_same]
  exact fun part _ => shownAs_maskPart part

end CriteriaSql.Connection
