import CriteriaSql.Criteria.Basic
import CriteriaSql.Proofs.Sql.Token

/-!
The grammar of selects. Its sentences are trees, with the tokens of which they are made, and a
condition has a truth value for every assignment of truth values to its comparisons.
-/

namespace CriteriaSql.Sql

/-! Names and values. -/

/-- In whatever mixture of cases, these name no column. -/
def reserved : List String :=
  ["select", "top", "from", "where", "order", "by", "asc", "desc", "and", "or", "not", "in", "is",
    "null", "like", "as"]

def isName (text : String) : Bool :=
  isWord text.toList && !reserved.contains (Text.lower text)

theorem isWord_of_isName {text : String} (h : isName text) : isWord text.toList :=
  (Bool.and_eq_true _ _ ▸ h).1

/-- The name of a column. -/
structure Name where
  text : String
  proper : isName text

theorem Name.ne_of_mem_reserved {name : Name} {text : String} (h : Text.lower text ∈ reserved) :
    name.text ≠ text := by
  have hproper := name.proper
  rintro rfl
  simp [isName, h] at hproper

/-- The name of a table, which may well be a reserved word where it stands. -/
structure TableName where
  text : String
  proper : isWord text.toList

def Name.token (name : Name) : Token :=
  .word name.text

inductive Value where
  | null
  | number (digits : String)
  | text (content : List Char)
  deriving DecidableEq

def Value.token : Value → Token
  | null => .word "NULL"
  | number digits => .number digits
  | text content => .text content

inductive Operator where
  | less
  | lessOrEqual
  | equal
  | greater
  | greaterOrEqual
  | notEqual
  | like
  deriving DecidableEq

def Operator.token : Operator → Token
  | less => .operator "<"
  | lessOrEqual => .operator "<="
  | equal => .operator "="
  | greater => .operator ">"
  | greaterOrEqual => .operator ">="
  | notEqual => .operator "<>"
  | like => .word "LIKE"

/-! Conditions. AND binds tighter than OR. -/

inductive Comparison where
  | compare (column : Name) (operator : Operator) (value : Value)
  | isNull (column : Name)
  | isNotNull (column : Name)
  | isIn (column : Name) (first : Value) (rest : List Value)

mutual

inductive SearchCondition where
  | term (term : BooleanTerm)
  | or (term : BooleanTerm) (rest : SearchCondition)

inductive BooleanTerm where
  | factor (factor : BooleanFactor)
  | and (factor : BooleanFactor) (rest : BooleanTerm)

inductive BooleanFactor where
  | comparison (comparison : Comparison)
  | group (condition : SearchCondition)

end

/-- Parts after the first, each of which follows a token. -/
def following (mark : Token) (parts : List (List Token)) : List Token :=
  parts.flatMap fun part => mark :: part

theorem intercalate_eq_following (mark : Token) (first : List Token) (rest : List (List Token)) :
    [mark].intercalate (first :: rest) = first ++ following mark rest := by
  induction rest generalizing first with
  | nil => simp [following]
  | cons next others ih =>
      rw [List.intercalate_cons_cons, ih next, following, following, List.flatMap_cons]
      simp

def Comparison.tokens : Comparison → List Token
  | compare column operator value => [column.token, operator.token, value.token]
  | isNull column => [column.token, .word "IS", .word "NULL"]
  | isNotNull column => [column.token, .word "IS", .word "NOT", .word "NULL"]
  | isIn column first rest =>
      [column.token, .word "IN", .opening, first.token] ++
        following .comma (rest.map fun value => [value.token]) ++ [.closing]

mutual

def SearchCondition.tokens : SearchCondition → List Token
  | .term term => term.tokens
  | .or term rest => term.tokens ++ .word "OR" :: rest.tokens

def BooleanTerm.tokens : BooleanTerm → List Token
  | .factor factor => factor.tokens
  | .and factor rest => factor.tokens ++ .word "AND" :: rest.tokens

def BooleanFactor.tokens : BooleanFactor → List Token
  | .comparison comparison => comparison.tokens
  | .group condition => .opening :: condition.tokens ++ [.closing]

end

/-! Selects. -/

inductive Function where
  | sum
  | average
  | max
  | min
  deriving DecidableEq

def Function.text : Function → String
  | sum => "SUM"
  | average => "AVG"
  | max => "MAX"
  | min => "MIN"

inductive Item where
  | column (name : Name)
  | calculation (function : Function) (argument : Name) (name : Name)

def Item.tokens : Item → List Token
  | column name => [name.token]
  | calculation function argument name =>
      [.word function.text, .opening, argument.token, .closing, .word "AS", name.token]

inductive Columns where
  | all
  | items (first : Item) (rest : List Item)

def Columns.tokens : Columns → List Token
  | all => [.star]
  | items first rest => first.tokens ++ following .comma (rest.map Item.tokens)

structure Select where
  top : Option Nat
  columns : Columns
  table : TableName
  condition : Option SearchCondition
  order : List (Name × SortOrder)

namespace Select

def topTokens : Option Nat → List Token
  | none => []
  | some n => [.word "TOP", .number (toString n)]

def whereTokens : Option SearchCondition → List Token
  | none => []
  | some condition => .word "WHERE" :: condition.tokens

def entryTokens (entry : Name × SortOrder) : List Token :=
  [entry.1.token, .word entry.2.sql]

def orderTokens : List (Name × SortOrder) → List Token
  | [] => []
  | first :: rest =>
      [.word "ORDER", .word "BY"] ++ entryTokens first ++ following .comma (rest.map entryTokens)

def tokens (select : Select) : List Token :=
  .word "SELECT" :: topTokens select.top ++ select.columns.tokens ++
    [.word "FROM", .word select.table.text] ++ whereTokens select.condition ++
    orderTokens select.order

end Select

/-- The tokens of the text are those of a select. -/
def Sentence (text : String) : Prop :=
  ∃ select : Select, lexed? text = some select.tokens

/-! Truth values. -/

inductive Truth where
  | no
  | unknown
  | yes
  deriving DecidableEq

namespace Truth

def and : Truth → Truth → Truth
  | no, _ => no
  | unknown, no => no
  | unknown, _ => unknown
  | yes, t => t

def or : Truth → Truth → Truth
  | yes, _ => yes
  | unknown, yes => yes
  | unknown, _ => unknown
  | no, t => t

/-- All of none hold. -/
def all (truths : List Truth) : Truth :=
  truths.foldr and yes

/-- Any of none does not. -/
def any (truths : List Truth) : Truth :=
  truths.foldr or no

@[simp] theorem and_yes (t : Truth) : t.and yes = t := by
  cases t <;> rfl

@[simp] theorem or_no (t : Truth) : t.or no = t := by
  cases t <;> rfl

theorem and_assoc (s t u : Truth) : (s.and t).and u = s.and (t.and u) := by
  cases s <;> cases t <;> cases u <;> rfl

theorem and_left_comm (s t u : Truth) : s.and (t.and u) = t.and (s.and u) := by
  cases s <;> cases t <;> cases u <;> rfl

theorem all_perm {as bs : List Truth} (h : as.Perm bs) : all as = all bs :=
  h.foldr_eq' (fun s _ t _ u => and_left_comm t s u) yes

end Truth

/-- What can be true, false or unknown of a row. -/
inductive Atom where
  | compare (column : String) (operator : Operator) (value : Value)
  | isNull (column : String)
  | isNotNull (column : String)
  deriving DecidableEq

def Atom.tokens : Atom → List Token
  | compare column operator value => [.word column, operator.token, value.token]
  | isNull column => [.word column, .word "IS", .word "NULL"]
  | isNotNull column => [.word column, .word "IS", .word "NOT", .word "NULL"]

variable (assignment : Atom → Truth)

/-- A value is in a list when it equals one of its items. -/
def Comparison.truth : Comparison → Truth
  | compare column operator value => assignment (.compare column.text operator value)
  | isNull column => assignment (.isNull column.text)
  | isNotNull column => assignment (.isNotNull column.text)
  | isIn column first rest =>
      Truth.any ((first :: rest).map fun value => assignment (.compare column.text .equal value))

mutual

def SearchCondition.truth : SearchCondition → Truth
  | .term term => term.truth
  | .or term rest => term.truth.or rest.truth

def BooleanTerm.truth : BooleanTerm → Truth
  | .factor factor => factor.truth
  | .and factor rest => factor.truth.and rest.truth

def BooleanFactor.truth : BooleanFactor → Truth
  | .comparison comparison => comparison.truth assignment
  | .group condition => condition.truth

end

end CriteriaSql.Sql
