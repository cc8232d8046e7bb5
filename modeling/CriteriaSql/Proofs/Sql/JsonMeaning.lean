import CriteriaSql.Proofs.Criteria.Attributes
import CriteriaSql.Proofs.Sql.Meaning
import Mathlib.Algebra.Ring.Int.Defs

/-! What a map of attributes says, taken from the JSON itself. -/

namespace CriteriaSql

open Sql (Atom Operator Truth Value isNumeral)

/-- The members of an object. Anything else has none. -/
def Json.entries (value : Json) : List (String × Json) :=
  value.members?.getD []

/-! The columns that it names. -/

def jsonColumnsAlgebra : Json.Algebra (List String) (List String) where
  members columns := columns.flatten
  noMap := []
  any columns := columns.flatten
  all columns := columns.flatten
  isIn key _ := [key]
  single key value :=
    if Text.lower key = "like" then value.entries.map Prod.fst else [key]

def Json.columns (json : Json) : List String :=
  json.foldMap jsonColumnsAlgebra

/-! Whether nothing in it is empty: no map, no list of branches or values. -/

def jsonFilledAlgebra : Json.Algebra Bool Bool where
  members found := !found.isEmpty && found.all id
  noMap := false
  any found := !found.isEmpty && found.all id
  all found := !found.isEmpty && found.all id
  isIn _ items := !items.isEmpty
  single key value := Text.lower key != "like" || !value.entries.isEmpty

def Json.isFilled (json : Json) : Bool :=
  json.foldMap jsonFilledAlgebra

/-! The values in it, as they stand in a statement. -/

/-- Text between quotes, in which there are no double quotes. -/
def Sql.Value.ofText (s : String) : Value :=
  .text (s.toList.map blanked)

/-- What is searched for where a value stands for a text. -/
def Sql.Value.chars : Value → List Char
  | null => "NULL".toList
  | number digits => digits.toList
  | text content => content

/-- A pattern in which three percent signs stand for one that is no wildcard. -/
def Sql.Value.decoded : Value → Value
  | text content => text (decodePercent content)
  | value => value

/-- What is not finite has no decimal form. -/
def Double.sqlValue (x : Double) : Value :=
  if x.isFinite then .number (sqlFloatLayout.text x) else .null

/-- Integers of 63 bits are exact, and greater ones are the nearest double. -/
def Json.Number.sqlValue : Json.Number → Value
  | .integer n => if n < 2 ^ 63 then .number (toString n) else (Double.ofInt n).sqlValue
  | .float x => x.sqlValue

/-- A date or a pattern is written as an object of one member. -/
def wrapped? : List (String × Json) → Option String
  | [("$date", .string written)] => (Rfc3339.parse? written).map Instant.sqlText
  | [("$regex", .string pattern)] => some ("/" ++ pattern ++ "/")
  | _ => none

/-- Any other array or object is its JSON text. -/
def Json.sqlValue : Json → Value
  | .null => .null
  | .bool b => .number (if b then "1" else "0")
  | .number n => n.sqlValue
  | .string s => .ofText s
  | .array items => .ofText (Json.array items).compact
  | .object members => .ofText ((wrapped? members).getD (Json.object members).compact)

/-! What is asked of a column. -/

def Sql.Atom.against (operator : Operator) (column : String) (value : Json) : Atom :=
  .compare column operator value.sqlValue

/-- Null is no value to be equal to. -/
def Sql.Atom.equals (column : String) : Json → Atom
  | .null => .isNull column
  | value => against .equal column value

def Sql.Atom.differs (column : String) : Json → Atom
  | .null => .isNotNull column
  | value => against .notEqual column value

/-- A search for a text, with what stands around it in the pattern. -/
def Sql.Atom.searches (before after : String) (column : String) (value : Json) : Atom :=
  .compare column .like (.text (before.toList ++ value.sqlValue.chars ++ after.toList))

def Sql.Atom.matchesPattern (column : String) (pattern : Json) : Atom :=
  .compare column .like pattern.sqlValue.decoded

/-- What each key of a comparison asks. -/
def comparatorMeanings : List (String × (String → Json → Atom)) :=
  [("<", Atom.against .less), ("lessThan", Atom.against .less),
    ("<=", Atom.against .lessOrEqual), ("lessThanOrEqual", Atom.against .lessOrEqual),
    (">", Atom.against .greater), ("greaterThan", Atom.against .greater),
    (">=", Atom.against .greaterOrEqual), ("greaterThanOrEqual", Atom.against .greaterOrEqual),
    ("!", Atom.differs), ("not", Atom.differs),
    ("like", Atom.searches "" ""), ("contains", Atom.searches "%" "%"),
    ("startsWith", Atom.searches "" "%"), ("endsWith", Atom.searches "%" "")]

-- No key of a comparison is without a meaning.
example : comparatorMeanings.map Prod.fst = comparatorKeys := rfl

/-! Its truth value. -/

section

variable (assignment : Atom → Truth)

def comparisonTruth (column : String) (member : String × Json) : Truth :=
  (comparatorMeanings.lookup member.1).elim .unknown fun meaning =>
    assignment (meaning column member.2)

/-- All comparisons hold, or the column equals the value. -/
def operandTruth (column : String) (value : Json) : Truth :=
  if value.compares then Truth.all (value.entries.map (comparisonTruth assignment column))
  else assignment (Atom.equals column value)

/-- The members of a map all hold, of the branches under `or` one does, under `and` all do, and a
column is in an array when it equals one of its items. -/
def jsonTruthAlgebra : Json.Algebra Truth Truth where
  members := Truth.all
  noMap := .unknown
  any := Truth.any
  all := Truth.all
  isIn column items :=
    Truth.any (items.map fun item => assignment (Atom.against .equal column item))
  single key value :=
    if Text.lower key = "like" then
      Truth.all (value.entries.map fun entry => assignment (Atom.matchesPattern entry.1 entry.2))
    else
      operandTruth assignment key value

def Json.truth (json : Json) : Truth :=
  json.foldMap (jsonTruthAlgebra assignment)

end

/-! The literals that are read are these values. -/

namespace Literal

theorem value_of_content? {literal : Literal} {content : List Char}
    (h : literal.content? = some content) : literal.value = .text content := by
  rw [value, h, Option.elim_some]

theorem value_of_isNumeral {literal : Literal} (h : literal.content? = none)
    (hnumeral : isNumeral literal.sql.toList) : literal.value = .number literal.sql := by
  have hnull : literal.sql ≠ "NULL" := by
    intro heq
    rw [heq] at hnumeral
    exact absurd hnumeral (by decide)
  rw [value, h, Option.elim_none, bareValue, if_neg hnull]

theorem value_float (x : Double) : (float x).value = x.sqlValue := by
  unfold Double.sqlValue
  by_cases hx : x.isFinite
  · have hsql : (float x).sql = sqlFloatLayout.text x := if_pos hx
    rw [if_pos hx, value_of_isNumeral rfl (hsql ▸ Sql.isNumeral_float hx), hsql]
  · have hsql : (float x).sql = "NULL" := if_neg hx
    rw [if_neg hx, value, bareValue, if_pos hsql]
    rfl

theorem value_ofNumber (number : Json.Number) : (ofNumber number).value = number.sqlValue := by
  cases number with
  | integer n =>
      have hbound : n ≤ greatestInt64 ↔ n < 2 ^ 63 := by
        unfold greatestInt64
        omega
      rw [ofNumber, Json.Number.sqlValue]
      by_cases hn : n < 2 ^ 63
      · rw [if_pos hn, if_pos (hbound.2 hn)]
        exact value_of_isNumeral rfl (Sql.isNumeral_intToString n)
      · rw [if_neg hn, if_neg fun h => hn (hbound.1 h)]
        exact value_float (.ofInt n)
  | float x => exact value_float x

theorem value_ofWrapper (key written : String) (value : Json) :
    ((ofWrapper? key written).getD (json value)).value =
      .ofText ((wrapped? [(key, .string written)]).getD value.compact) := by
  unfold ofWrapper?
  split
  · rw [wrapped?]
    cases Rfc3339.parse? written <;> rfl
  · rfl
  · rename_i hdate hregex
    have hnone : wrapped? [(key, .string written)] = none := by
      unfold wrapped?
      split
      · rename_i heq
        cases heq
        exact absurd rfl hdate
      · rename_i heq
        cases heq
        exact absurd rfl hregex
      · rfl
    rw [hnone]
    rfl

theorem value_ofJson (json : Json) : (ofJson json).value = json.sqlValue := by
  unfold ofJson
  split
  · rfl
  · rename_i b
    cases b <;> rfl
  · exact value_ofNumber _
  · rfl
  · rfl
  · exact value_ofWrapper ..
  · rename_i members hmembers
    -- No other object is a date or a pattern.
    have hnone : wrapped? members = none := by
      unfold wrapped?
      split
      · exact absurd rfl (hmembers "$date" _)
      · exact absurd rfl (hmembers "$regex" _)
      · rfl
    rw [Json.sqlValue, hnone]
    rfl

/-- What is not between quotes is the word for null or a number. -/
theorem value_cases (literal : Literal) :
    (∃ content, literal.content? = some content ∧ literal.value = .text content) ∨
    (literal.content? = none ∧ literal.sql = "NULL" ∧ literal.value = .null) ∨
    (literal.content? = none ∧ literal.sql ≠ "NULL" ∧ literal.value = .number literal.sql) := by
  cases hcontent : literal.content? with
  | some content => exact .inl ⟨content, rfl, value_of_content? hcontent⟩
  | none =>
      rw [value, hcontent, Option.elim_none, bareValue]
      by_cases hnull : literal.sql = "NULL"
      · exact .inr (.inl ⟨rfl, hnull, if_pos hnull⟩)
      · exact .inr (.inr ⟨rfl, hnull, if_neg hnull⟩)

/-- The text of a literal in a pattern is that of its value. -/
theorem pattern_eq_chars (literal : Literal) : literal.pattern = literal.value.chars := by
  unfold pattern
  rcases literal.value_cases with
    ⟨content, hcontent, hvalue⟩ | ⟨hcontent, hnull, hvalue⟩ | ⟨hcontent, -, hvalue⟩
  · rw [hcontent, hvalue, Option.getD_some, Sql.Value.chars]
  · rw [hcontent, hvalue, Option.getD_none, hnull, Sql.Value.chars]
  · rw [hcontent, hvalue, Option.getD_none, Sql.Value.chars]

theorem decodedValue_eq (literal : Literal) : literal.decodedValue = literal.value.decoded := by
  unfold decodedValue
  rcases literal.value_cases with
    ⟨content, hcontent, hvalue⟩ | ⟨hcontent, hnull, hvalue⟩ | ⟨hcontent, hnumber, hvalue⟩
  · rw [hcontent, hvalue, Option.elim_some, Sql.Value.decoded]
  · rw [hcontent, hvalue, Option.elim_none, bareValue, if_pos hnull]
    rfl
  · rw [hcontent, hvalue, Option.elim_none, bareValue, if_neg hnumber]
    rfl

end Literal

/-! The predicate that is read says the same. -/

theorem isNull_ofWrapper (key text : String) (value : Json) :
    ((Literal.ofWrapper? key text).getD (.json value)).isNull = false := by
  unfold Literal.ofWrapper?
  split
  · cases Rfc3339.parse? text <;> rfl
  · rfl
  · rfl

theorem isNull_ofJson {json : Json} (h : json ≠ .null) : (Literal.ofJson json).isNull = false := by
  unfold Literal.ofJson
  split
  · exact absurd rfl h
  · rfl
  · rename_i number
    unfold Literal.ofNumber
    split
    · split <;> rfl
    · rfl
  · rfl
  · rfl
  · exact isNull_ofWrapper ..
  · rfl

theorem jsonColumnsAlgebra_reads : jsonColumnsAlgebra.Reads columnsAlgebra where
  members _ := rfl
  any _ := rfl
  all _ := rfl
  isIn _ _ := rfl
  single := by
    intro key value clause hread
    rcases Clause.ofMember_cases hread with ⟨hkey, entries, rfl, rfl⟩ | ⟨hkey, condition, _, rfl⟩
    · rw [Clause.fold_like]
      show (if _ then _ else _) = (entries.map _).map Prod.fst
      rw [if_pos hkey, List.map_map]
      rfl
    · have hlike := Keyword.ne_like_of_notMem hkey
      rw [Clause.fold_column]
      exact if_neg hlike

theorem columns_ofJson {json : Json} {predicate : Predicate}
    (h : Predicate.ofJson json = .ok predicate) : json.columns = predicate.columns :=
  jsonColumnsAlgebra_reads.foldMap_eq json predicate h

theorem jsonFilledAlgebra_reads : jsonFilledAlgebra.Reads filledAlgebra where
  members _ := rfl
  any _ := rfl
  all _ := rfl
  isIn key items := by
    show (!items.isEmpty) = !(items.map _).isEmpty
    rw [List.isEmpty_map]
  single := by
    intro key value clause hread
    rcases Clause.ofMember_cases hread with
      ⟨hkey, entries, rfl, rfl⟩ | ⟨hkey, condition, hcondition, rfl⟩
    · rw [Clause.fold_like]
      show (Text.lower key != "like" || !entries.isEmpty) = !(entries.map _).isEmpty
      rw [hkey, List.isEmpty_map]
      rfl
    · have hlike := Keyword.ne_like_of_notMem hkey
      have hfilled : condition.isFilled = true := by
        rcases Condition.ofJson_cases hcondition with
          ⟨_, rfl⟩ | ⟨members, comparisons, rfl, hany, hmembers, rfl⟩
        · rfl
        · -- There is a comparator among the members, so there are members, and as many comparisons.
          have hlength : members.map (fun _ => ()) = comparisons.map fun _ => () :=
            map_eq_of_mapM hmembers fun _ _ _ _ => rfl
          rw [Condition.isFilled]
          cases comparisons with
          | cons comparison rest => rfl
          | nil =>
              rw [List.map_eq_nil_iff.1 hlength] at hany
              cases hany
      rw [Clause.fold_column]
      show (Text.lower key != "like" || _) = condition.isFilled
      rw [hfilled]
      simp [hlike]

theorem isFilled_ofJson {json : Json} {predicate : Predicate}
    (h : Predicate.ofJson json = .ok predicate) : json.isFilled = predicate.isFilled :=
  jsonFilledAlgebra_reads.foldMap_eq json predicate h

/-! What is asked of a column is what the condition that is read says of it. -/

theorem Sql.Atom.against_eq (operator : Operator) (column : String) (value : Json) :
    against operator column value = .compare column operator (Literal.ofJson value).value := by
  rw [against, Literal.value_ofJson]

theorem Sql.Atom.equals_eq (column : String) (value : Json) :
    equals column value = equalityAtom column (.ofJson value) := by
  unfold equals equalityAtom
  split
  · rfl
  · rename_i hvalue
    rw [isNull_ofJson hvalue, if_neg Bool.false_ne_true, Atom.against_eq]

theorem Sql.Atom.differs_eq (column : String) (value : Json) :
    differs column value = Comparator.not.atom column (.ofJson value) := by
  unfold differs Comparator.atom
  split
  · rfl
  · rename_i hvalue
    rw [isNull_ofJson hvalue, if_neg Bool.false_ne_true, Atom.against_eq]

theorem Sql.Atom.searches_eq (before after column : String) (value : Json) :
    searches before after column value = wildcardAtom column before (.ofJson value) after := by
  rw [searches, wildcardAtom, Literal.pattern_eq_chars, Literal.value_ofJson]

theorem Sql.Atom.matchesPattern_eq (column : String) (pattern : Json) :
    matchesPattern column pattern = likeAtom column (.ofJson pattern) := by
  rw [matchesPattern, likeAtom, Literal.decodedValue_eq, Literal.value_ofJson]

/-- The meaning of a key is that of the comparator that is read from it. -/
theorem comparatorMeanings_reads {key : String} {comparator : Comparator}
    (h : Comparator.ofKey? key = some comparator) : ∃ meaning,
      comparatorMeanings.lookup key = some meaning ∧
      ∀ column value, meaning column value = comparator.atom column (.ofJson value) := by
  -- Fourteen keys are read, in the order of the table, and any other is refused.
  unfold Comparator.ofKey? at h
  split at h
  case h_15 => cases h
  case h_9 | h_10 =>
    obtain rfl := Option.some.inj h
    exact ⟨_, rfl, Atom.differs_eq⟩
  case h_11 | h_12 | h_13 | h_14 =>
    obtain rfl := Option.some.inj h
    exact ⟨_, rfl, Atom.searches_eq _ _⟩
  all_goals
    obtain rfl := Option.some.inj h
    exact ⟨_, rfl, Atom.against_eq _⟩

theorem comparisonTruth_eq (assignment : Atom → Truth) (column : String) {member : String × Json}
    {comparison : Comparator × Literal}
    (h : Condition.comparison member.1 member.2 = .ok comparison) :
    comparisonTruth assignment column member =
      assignment (comparison.1.atom column comparison.2) := by
  unfold Condition.comparison at h
  cases hkey : Comparator.ofKey? member.1 with
  | none =>
      rw [hkey] at h
      cases h
  | some comparator =>
      obtain ⟨meaning, hlookup, hmeaning⟩ := comparatorMeanings_reads hkey
      simp only [hkey] at h
      split at h
      · cases h
      · obtain rfl := Except.ok.inj h
        rw [comparisonTruth, hlookup, Option.elim_some, hmeaning]

theorem jsonTruthAlgebra_reads (assignment : Atom → Truth) :
    (jsonTruthAlgebra assignment).Reads (truthAlgebra assignment) where
  members _ := rfl
  any _ := rfl
  all _ := rfl
  isIn key items := by
    show Truth.any _ = Truth.any ((items.map _).map _)
    rw [List.map_map]
    simp only [Atom.against_eq, Function.comp_def]
  single := by
    intro key value clause hread
    rcases Clause.ofMember_cases hread with
      ⟨hkey, entries, rfl, rfl⟩ | ⟨hkey, condition, hcondition, rfl⟩
    · rw [Clause.fold_like]
      show (if _ then _ else _) = Truth.all ((entries.map _).map _)
      rw [if_pos hkey, List.map_map]
      simp only [Atom.matchesPattern_eq, Function.comp_def]
      rfl
    · have hlike := Keyword.ne_like_of_notMem hkey
      rw [Clause.fold_column]
      show (if _ then _ else _) = condition.truth assignment key
      rw [if_neg hlike]
      rcases Condition.ofJson_cases hcondition with
        ⟨hplain, rfl⟩ | ⟨members, comparisons, rfl, hcomparison, hmembers, rfl⟩
      · -- What is no list of comparisons is compared as it stands, objects included.
        rw [operandTruth, hplain, if_neg Bool.false_ne_true, Atom.equals_eq]
        rfl
      · rw [operandTruth, if_pos hcomparison]
        apply congrArg Truth.all
        apply map_eq_of_mapM hmembers
        intro member _ comparison hmember
        exact comparisonTruth_eq assignment key hmember

theorem truth_ofJson (assignment : Atom → Truth) {json : Json} {predicate : Predicate}
    (h : Predicate.ofJson json = .ok predicate) :
    json.truth assignment = predicate.truth assignment :=
  (jsonTruthAlgebra_reads assignment).foldMap_eq json predicate h

end CriteriaSql
