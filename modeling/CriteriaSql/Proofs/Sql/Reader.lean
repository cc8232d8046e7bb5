import CriteriaSql.Proofs.Sql.Grammar
import CriteriaSql.Text.Numeral

/-!
A reader for selects. It goes from left to right, and finds in a list of tokens the one select, if
any, that these are the tokens of.
-/

namespace CriteriaSql.Sql

/-- What was read, and the tokens that are left. -/
abbrev Reader (α : Type) := List Token → Option (α × List Token)

def Token.name? : Token → Option Name
  | word name => if h : isName name then some ⟨name, h⟩ else none
  | _ => none

def Token.value? : Token → Option Value
  | word "NULL" => some .null
  | number digits => some (.number digits)
  | text content => some (.text content)
  | _ => none

def Token.operator? : Token → Option Operator
  | operator "<" => some .less
  | operator "<=" => some .lessOrEqual
  | operator "=" => some .equal
  | operator ">" => some .greater
  | operator ">=" => some .greaterOrEqual
  | operator "<>" => some .notEqual
  | word "LIKE" => some .like
  | _ => none

/-- Reads on as long as there is another mark, but not more than `fuel` times. -/
def readFollowing (mark : Token) (item : Reader α) : (fuel : Nat) → Reader (List α)
  | 0, ts => some ([], ts)
  | fuel + 1, t :: ts =>
      if t = mark then do
        let (first, ts) ← item ts
        let (rest, ts) ← readFollowing mark item fuel ts
        return (first :: rest, ts)
      else
        some ([], t :: ts)
  | _ + 1, [] => some ([], [])

def readValue : Reader Value
  | [] => none
  | t :: ts => do return (← t.value?, ts)

def readComparison : Reader Comparison
  | t :: .word "IS" :: .word "NULL" :: ts => do return (.isNull (← t.name?), ts)
  | t :: .word "IS" :: .word "NOT" :: .word "NULL" :: ts => do return (.isNotNull (← t.name?), ts)
  | t :: .word "IN" :: .opening :: ts => do
      let (first, ts) ← readValue ts
      let (rest, ts) ← readFollowing .comma readValue ts.length ts
      match ts with
      | .closing :: ts => return (.isIn (← t.name?) first rest, ts)
      | _ => none
  | t :: o :: v :: ts => do return (.compare (← t.name?) (← o.operator?) (← v.value?), ts)
  | _ => none

mutual

def readCondition : (fuel : Nat) → Reader SearchCondition
  | 0, _ => none
  | fuel + 1, ts => do
      let (term, ts) ← readTerm fuel ts
      match ts with
      | .word "OR" :: ts => do
          let (rest, ts) ← readCondition fuel ts
          return (.or term rest, ts)
      | ts => return (.term term, ts)

def readTerm : (fuel : Nat) → Reader BooleanTerm
  | 0, _ => none
  | fuel + 1, ts => do
      let (factor, ts) ← readFactor fuel ts
      match ts with
      | .word "AND" :: ts => do
          let (rest, ts) ← readTerm fuel ts
          return (.and factor rest, ts)
      | ts => return (.factor factor, ts)

def readFactor : (fuel : Nat) → Reader BooleanFactor
  | 0, _ => none
  | fuel + 1, .opening :: ts => do
      let (condition, ts) ← readCondition fuel ts
      match ts with
      | .closing :: ts => return (.group condition, ts)
      | _ => none
  | _ + 1, ts => do
      let (comparison, ts) ← readComparison ts
      return (.comparison comparison, ts)

end

def Function.ofText? : String → Option Function
  | "SUM" => some sum
  | "AVG" => some average
  | "MAX" => some max
  | "MIN" => some min
  | _ => none

def readItem : Reader Item
  | .word function :: .opening :: argument :: .closing :: .word "AS" :: name :: ts => do
      return (.calculation (← Function.ofText? function) (← argument.name?) (← name.name?), ts)
  | t :: ts => do return (.column (← t.name?), ts)
  | [] => none

def readTop : Reader (Option Nat)
  | .word "TOP" :: .number digits :: ts =>
      if digits.toList.all Char.isDigit then some (some (Text.decimalValue digits.toList), ts)
      else none
  | ts => some (none, ts)

def readColumns : Reader Columns
  | .star :: ts => some (.all, ts)
  | ts => do
      let (first, ts) ← readItem ts
      let (rest, ts) ← readFollowing .comma readItem ts.length ts
      return (.items first rest, ts)

def readTable : Reader TableName
  | .word "FROM" :: .word text :: ts =>
      if h : isWord text.toList then some (⟨text, h⟩, ts) else none
  | _ => none

def readWhere : Reader (Option SearchCondition)
  | .word "WHERE" :: ts => do
      let (condition, ts) ← readCondition (3 * ts.length) ts
      return (some condition, ts)
  | ts => some (none, ts)

def readEntry : Reader (Name × SortOrder)
  | t :: .word "ASC" :: ts => do return ((← t.name?, .ascending), ts)
  | t :: .word "DESC" :: ts => do return ((← t.name?, .descending), ts)
  | _ => none

def readOrder : Reader (List (Name × SortOrder))
  | .word "ORDER" :: .word "BY" :: ts => do
      let (first, ts) ← readEntry ts
      let (rest, ts) ← readFollowing .comma readEntry ts.length ts
      return (first :: rest, ts)
  | ts => some ([], ts)

def readSelect : List Token → Option Select
  | .word "SELECT" :: ts => do
      let (top, ts) ← readTop ts
      let (columns, ts) ← readColumns ts
      let (table, ts) ← readTable ts
      let (condition, ts) ← readWhere ts
      let (order, ts) ← readOrder ts
      if ts.isEmpty then return { top, columns, table, condition, order } else none
  | _ => none

/-- The select that a text is. -/
def read? (text : String) : Option Select :=
  (lexed? text).bind readSelect

/-! Every select is read from its tokens. -/

theorem Name.name?_token (name : Name) : name.token.name? = some name :=
  dif_pos name.proper

theorem Value.value?_token (value : Value) : value.token.value? = some value := by
  cases value <;> rfl

theorem Operator.operator?_token (operator : Operator) :
    operator.token.operator? = some operator := by
  cases operator <;> rfl

theorem Function.ofText?_text (function : Function) : ofText? function.text = some function := by
  cases function <;> rfl

/-- Marks stand between the items, so there are no more items than tokens. -/
theorem length_following (mark : Token) (parts : List (List Token)) :
    parts.length ≤ (following mark parts).length := by
  induction parts with
  | nil => exact Nat.le_refl 0
  | cons part rest ih =>
      have hcons : (following mark (part :: rest)).length =
          part.length + 1 + (following mark rest).length := by
        rw [following, List.flatMap_cons, List.length_append, List.length_cons]
        rfl
      rw [hcons, List.length_cons]
      omega

/-- Items are read one after another, as long as each ends before a mark and before what comes
after the last. -/
theorem readFollowing_tokens {mark : Token} {item : Reader α} {written : α → List Token}
    (follows : List Token → Prop)
    (hitem : ∀ a ts, follows ts → item (written a ++ ts) = some (a, ts))
    (hmark : ∀ ts, follows (mark :: ts)) {ts : List Token} (hts : follows ts)
    (hhead : ∀ t ∈ ts.head?, t ≠ mark) (items : List α) {fuel : Nat}
    (hfuel : (following mark (items.map written)).length ≤ fuel) :
    readFollowing mark item fuel (following mark (items.map written) ++ ts) = some (items, ts) := by
  replace hfuel : items.length ≤ fuel := by
    have hlength := length_following mark (items.map written)
    rw [List.length_map] at hlength
    omega
  induction items generalizing fuel with
  | nil =>
      cases fuel with
      | zero => rfl
      | succ fuel =>
          cases ts with
          | nil => rfl
          | cons t ts =>
              have hne : t ≠ mark := hhead t rfl
              show readFollowing mark item (fuel + 1) (t :: ts) = _
              rw [readFollowing, if_neg hne]
  | cons first rest ih =>
      cases fuel with
      | zero => cases hfuel
      | succ fuel =>
          have hrest := ih (Nat.le_of_succ_le_succ hfuel)
          -- After the first item comes another mark, or what comes after the last item.
          have hnext : follows (following mark (rest.map written) ++ ts) := by
            cases rest with
            | nil => exact hts
            | cons next others => exact hmark _
          have hsplit : following mark ((first :: rest).map written) ++ ts =
              mark :: (written first ++ (following mark (rest.map written) ++ ts)) := by
            simp [following]
          rw [hsplit, readFollowing, if_pos rfl, hitem _ _ hnext]
          simp only [Option.bind_eq_bind, Option.bind_some]
          rw [hrest]
          rfl

/-- Items of one token each, up to the bracket that closes the list. -/
theorem readFollowing_single {item : Reader α} {token : α → Token}
    (hitem : ∀ a ts, item (token a :: ts) = some (a, ts)) (items : List α) (ts : List Token) :
    readFollowing .comma item
      (following .comma (items.map fun a => [token a]) ++ .closing :: ts).length
      (following .comma (items.map fun a => [token a]) ++ .closing :: ts) =
      some (items, .closing :: ts) := by
  apply readFollowing_tokens fun _ => True
  · exact fun a ts _ => hitem a ts
  · exact fun _ => trivial
  · trivial
  · simp
  · rw [List.length_append]
    omega

theorem readValue_token (value : Value) (ts : List Token) :
    readValue (value.token :: ts) = some (value, ts) := by
  rw [readValue, value.value?_token]
  rfl

theorem readComparison_tokens (comparison : Comparison) (ts : List Token) :
    readComparison (comparison.tokens ++ ts) = some (comparison, ts) := by
  cases comparison with
  | isNull column =>
      show readComparison (column.token :: .word "IS" :: .word "NULL" :: ts) = _
      rw [readComparison, column.name?_token]
      rfl
  | isNotNull column =>
      show readComparison (column.token :: .word "IS" :: .word "NOT" :: .word "NULL" :: ts) = _
      rw [readComparison, column.name?_token]
      rfl
  | compare column operator value =>
      show readComparison (column.token :: operator.token :: value.token :: ts) = _
      -- No operator is IS or IN, so it is the last equation of the reader that applies.
      have hread : readComparison (column.token :: operator.token :: value.token :: ts) = (do
          return (.compare (← column.token.name?) (← operator.token.operator?)
            (← value.token.value?), ts)) := by
        cases operator <;> rfl
      rw [hread, column.name?_token, operator.operator?_token, value.value?_token]
      rfl
  | isIn column first rest =>
      have hrest := readFollowing_single readValue_token rest ts
      have hsplit : (Comparison.isIn column first rest).tokens ++ ts =
          column.token :: .word "IN" :: .opening :: (first.token ::
            (following .comma (rest.map fun value => [value.token]) ++ .closing :: ts)) := by
        simp [Comparison.tokens]
      rw [hsplit, readComparison, readValue_token]
      simp only [Option.bind_eq_bind, Option.bind_some]
      rw [hrest]
      simp only [Option.bind_some]
      rw [column.name?_token]
      rfl

/-! Conditions need fuel for their depth, of which there is no more than there are tokens. -/

mutual

def SearchCondition.depth : SearchCondition → Nat
  | .term term => term.depth + 1
  | .or term rest => max term.depth rest.depth + 1

def BooleanTerm.depth : BooleanTerm → Nat
  | .factor factor => factor.depth + 1
  | .and factor rest => max factor.depth rest.depth + 1

def BooleanFactor.depth : BooleanFactor → Nat
  | .comparison _ => 1
  | .group condition => condition.depth + 1

end

theorem Comparison.one_le_length_tokens (comparison : Comparison) :
    1 ≤ comparison.tokens.length := by
  cases comparison <;> simp [tokens]

mutual

theorem SearchCondition.depth_le (condition : SearchCondition) :
    condition.depth ≤ 3 * condition.tokens.length := by
  cases condition with
  | term term =>
      have hterm := term.depth_lt
      rw [SearchCondition.depth, SearchCondition.tokens]
      omega
  | or term rest =>
      have hterm := term.depth_lt
      have hrest := rest.depth_le
      rw [SearchCondition.depth, SearchCondition.tokens, List.length_append, List.length_cons]
      omega

theorem BooleanTerm.depth_lt (term : BooleanTerm) : term.depth + 1 ≤ 3 * term.tokens.length := by
  cases term with
  | factor factor =>
      have hfactor := factor.depth_lt
      rw [BooleanTerm.depth, BooleanTerm.tokens]
      omega
  | and factor rest =>
      have hfactor := factor.depth_lt
      have hrest := rest.depth_lt
      rw [BooleanTerm.depth, BooleanTerm.tokens, List.length_append, List.length_cons]
      omega

theorem BooleanFactor.depth_lt (factor : BooleanFactor) :
    factor.depth + 2 ≤ 3 * factor.tokens.length := by
  cases factor with
  | comparison comparison =>
      have hcomparison := comparison.one_le_length_tokens
      rw [BooleanFactor.depth, BooleanFactor.tokens]
      omega
  | group condition =>
      have hcondition := condition.depth_le
      rw [BooleanFactor.depth, BooleanFactor.tokens, List.length_append, List.length_cons,
        List.length_singleton]
      omega

end

/-- Neither AND nor OR comes next, so a condition ends here. -/
def EndsCondition (ts : List Token) : Prop :=
  ∀ t ∈ ts.head?, t ≠ .word "AND" ∧ t ≠ .word "OR"

mutual

theorem readCondition_tokens (condition : SearchCondition) {fuel : Nat}
    (hfuel : condition.depth ≤ fuel) {ts : List Token} (hts : EndsCondition ts) :
    readCondition fuel (condition.tokens ++ ts) = some (condition, ts) := by
  cases condition with
  | term term =>
      rw [SearchCondition.depth] at hfuel
      obtain ⟨fuel, rfl⟩ := Nat.exists_eq_add_of_le' (Nat.one_le_of_lt hfuel)
      have hterm := readTerm_tokens term (Nat.le_of_succ_le_succ hfuel) fun t ht => (hts t ht).1
      rw [SearchCondition.tokens, readCondition, hterm]
      simp only [Option.bind_eq_bind, Option.bind_some]
      -- No OR follows, or the condition would go on.
      split
      · rename_i others
        exact absurd rfl (hts _ rfl).2
      · rfl
  | or term rest =>
      rw [SearchCondition.depth] at hfuel
      obtain ⟨fuel, rfl⟩ := Nat.exists_eq_add_of_le' (Nat.one_le_of_lt hfuel)
      have hterm : readTerm fuel (term.tokens ++ .word "OR" :: (rest.tokens ++ ts)) =
          some (term, .word "OR" :: (rest.tokens ++ ts)) :=
        readTerm_tokens term (by omega) (by simp)
      have hrest : readCondition fuel (rest.tokens ++ ts) = some (rest, ts) :=
        readCondition_tokens rest (by omega) hts
      rw [SearchCondition.tokens, List.append_assoc, List.cons_append, readCondition, hterm]
      simp only [Option.bind_eq_bind, Option.bind_some]
      rw [hrest]
      rfl

theorem readTerm_tokens (term : BooleanTerm) {fuel : Nat} (hfuel : term.depth ≤ fuel)
    {ts : List Token} (hts : ∀ t ∈ ts.head?, t ≠ .word "AND") :
    readTerm fuel (term.tokens ++ ts) = some (term, ts) := by
  cases term with
  | factor factor =>
      rw [BooleanTerm.depth] at hfuel
      obtain ⟨fuel, rfl⟩ := Nat.exists_eq_add_of_le' (Nat.one_le_of_lt hfuel)
      have hfactor := readFactor_tokens factor (Nat.le_of_succ_le_succ hfuel) ts
      rw [BooleanTerm.tokens, readTerm, hfactor]
      simp only [Option.bind_eq_bind, Option.bind_some]
      split
      · exact absurd rfl (hts _ rfl)
      · rfl
  | and factor rest =>
      rw [BooleanTerm.depth] at hfuel
      obtain ⟨fuel, rfl⟩ := Nat.exists_eq_add_of_le' (Nat.one_le_of_lt hfuel)
      have hfactor : readFactor fuel (factor.tokens ++ .word "AND" :: (rest.tokens ++ ts)) =
          some (factor, .word "AND" :: (rest.tokens ++ ts)) :=
        readFactor_tokens factor (by omega) _
      have hrest : readTerm fuel (rest.tokens ++ ts) = some (rest, ts) :=
        readTerm_tokens rest (by omega) hts
      rw [BooleanTerm.tokens, List.append_assoc, List.cons_append, readTerm, hfactor]
      simp only [Option.bind_eq_bind, Option.bind_some]
      rw [hrest]
      rfl

theorem readFactor_tokens (factor : BooleanFactor) {fuel : Nat} (hfuel : factor.depth ≤ fuel)
    (ts : List Token) : readFactor fuel (factor.tokens ++ ts) = some (factor, ts) := by
  cases factor with
  | comparison comparison =>
      rw [BooleanFactor.depth] at hfuel
      obtain ⟨fuel, rfl⟩ := Nat.exists_eq_add_of_le' hfuel
      have hcomparison := readComparison_tokens comparison ts
      -- A comparison begins with a name, and a group with a bracket.
      have hbracket : ∀ others, comparison.tokens ++ ts ≠ .opening :: others := by
        intro others
        cases comparison <;> simp [Comparison.tokens, Name.token]
      rw [BooleanFactor.tokens, readFactor, hcomparison]
      · rfl
      · exact hbracket
  | group condition =>
      rw [BooleanFactor.depth] at hfuel
      obtain ⟨fuel, rfl⟩ := Nat.exists_eq_add_of_le' (Nat.one_le_of_lt hfuel)
      have hcondition : readCondition fuel (condition.tokens ++ .closing :: ts) =
          some (condition, .closing :: ts) :=
        readCondition_tokens condition (Nat.le_of_succ_le_succ hfuel) (by simp [EndsCondition])
      rw [BooleanFactor.tokens, List.append_assoc, List.singleton_append, List.cons_append,
        readFactor, hcondition]
      rfl

end

/-! The parts of a select. -/

theorem readTop_tokens (top : Option Nat) {ts : List Token}
    (hts : ∀ t ∈ ts.head?, t ≠ .word "TOP") :
    readTop (Select.topTokens top ++ ts) = some (top, ts) := by
  cases top with
  | none =>
      show readTop ts = some (none, ts)
      unfold readTop
      split
      · exact absurd rfl (hts _ rfl)
      · rfl
  | some n =>
      have hdigits : (toString n).toList.all Char.isDigit := by
        rw [List.all_eq_true, Nat.toString_eq_repr, Nat.toList_repr]
        exact fun c hc => (Digits.toDigits n).isDigit c hc
      show readTop (.word "TOP" :: .number (toString n) :: ts) = some (some n, ts)
      rw [readTop, if_pos hdigits, decimalValue_toString]

/-- A name is no calculation unless a bracket follows. -/
theorem readItem_tokens (item : Item) {ts : List Token} (hts : ∀ t ∈ ts.head?, t ≠ .opening) :
    readItem (item.tokens ++ ts) = some (item, ts) := by
  cases item with
  | column name =>
      show readItem (name.token :: ts) = some (.column name, ts)
      have hread :
          readItem (name.token :: ts) = (do return (.column (← name.token.name?), ts)) := by
        unfold readItem
        split
        · rename_i heq
          rw [(List.cons.inj heq).2] at hts
          exact absurd rfl (hts _ rfl)
        · rename_i heq
          rw [(List.cons.inj heq).1, (List.cons.inj heq).2]
        · rename_i heq
          cases heq
      rw [hread, name.name?_token]
      rfl
  | calculation function argument name =>
      show readItem (.word function.text :: .opening :: argument.token :: .closing ::
        .word "AS" :: name.token :: ts) = _
      rw [readItem, function.ofText?_text, argument.name?_token, name.name?_token]
      rfl

theorem readColumns_tokens (columns : Columns) {ts : List Token}
    (hts : ∀ t ∈ ts.head?, t ≠ .opening ∧ t ≠ .comma) :
    readColumns (columns.tokens ++ ts) = some (columns, ts) := by
  cases columns with
  | all => rfl
  | items first rest =>
      have hfirst : readItem (first.tokens ++ (following .comma (rest.map Item.tokens) ++ ts)) =
          some (first, following .comma (rest.map Item.tokens) ++ ts) := by
        apply readItem_tokens
        cases rest with
        | nil => exact fun t ht => (hts t ht).1
        | cons next others => simp [following]
      have hrest : readFollowing .comma readItem
          (following .comma (rest.map Item.tokens) ++ ts).length
          (following .comma (rest.map Item.tokens) ++ ts) = some (rest, ts) := by
        apply readFollowing_tokens fun ts => ∀ t ∈ ts.head?, t ≠ .opening
        · exact fun item ts hts => readItem_tokens item hts
        · simp
        · exact fun t ht => (hts t ht).1
        · exact fun t ht => (hts t ht).2
        · rw [List.length_append]
          omega
      -- An item begins with a word, and all columns are one star.
      have hstar : ∀ others, (Columns.items first rest).tokens ++ ts ≠ .star :: others := by
        intro others
        cases first <;> simp [Columns.tokens, Item.tokens, Name.token]
      rw [readColumns]
      · rw [Columns.tokens, List.append_assoc, hfirst]
        simp only [Option.bind_eq_bind, Option.bind_some]
        rw [hrest]
        rfl
      · exact hstar

theorem readTable_tokens (table : TableName) (ts : List Token) :
    readTable (.word "FROM" :: .word table.text :: ts) = some (table, ts) := by
  rw [readTable, dif_pos table.proper]

theorem readWhere_tokens (condition : Option SearchCondition) {ts : List Token}
    (hts : EndsCondition ts) (hwhere : ∀ t ∈ ts.head?, t ≠ .word "WHERE") :
    readWhere (Select.whereTokens condition ++ ts) = some (condition, ts) := by
  cases condition with
  | none =>
      show readWhere ts = some (none, ts)
      unfold readWhere
      split
      · exact absurd rfl (hwhere _ rfl)
      · rfl
  | some condition =>
      have hdepth := condition.depth_le
      have hcondition :
          readCondition (3 * (condition.tokens ++ ts).length) (condition.tokens ++ ts) =
            some (condition, ts) := by
        apply readCondition_tokens condition _ hts
        rw [List.length_append]
        omega
      show readWhere (.word "WHERE" :: (condition.tokens ++ ts)) = _
      rw [readWhere, hcondition]
      rfl

theorem readEntry_tokens (entry : Name × SortOrder) (ts : List Token) :
    readEntry (Select.entryTokens entry ++ ts) = some (entry, ts) := by
  obtain ⟨name, order⟩ := entry
  cases order with
  | ascending =>
      show readEntry (name.token :: .word "ASC" :: ts) = _
      rw [readEntry, name.name?_token]
      rfl
  | descending =>
      show readEntry (name.token :: .word "DESC" :: ts) = _
      rw [readEntry, name.name?_token]
      rfl

theorem readOrder_tokens (order : List (Name × SortOrder)) :
    readOrder (Select.orderTokens order) = some (order, []) := by
  cases order with
  | nil => rfl
  | cons first rest =>
      have hrest : readFollowing .comma readEntry
          (following .comma (rest.map Select.entryTokens) ++ []).length
          (following .comma (rest.map Select.entryTokens) ++ []) = some (rest, []) := by
        apply readFollowing_tokens fun _ => True
        · exact fun entry ts _ => readEntry_tokens entry ts
        · exact fun _ => trivial
        · trivial
        · simp
        · rw [List.append_nil]
      rw [List.append_nil] at hrest
      rw [Select.orderTokens, List.append_assoc]
      show readOrder (.word "ORDER" :: .word "BY" :: (Select.entryTokens first ++ _)) = _
      rw [readOrder, readEntry_tokens]
      simp only [Option.bind_eq_bind, Option.bind_some]
      rw [hrest]
      rfl

theorem head?_orderTokens {order : List (Name × SortOrder)} {t : Token}
    (ht : t ∈ (Select.orderTokens order).head?) : t = .word "ORDER" := by
  cases order with
  | nil => cases ht
  | cons first rest => exact (Option.some.inj ht).symm

theorem head?_columnsTokens {columns : Columns} {t : Token} {ts : List Token}
    (ht : t ∈ (columns.tokens ++ ts).head?) : t ≠ .word "TOP" := by
  cases columns with
  | all =>
      rw [← Option.some.inj ht]
      simp
  | items first rest =>
      cases first with
      | column name =>
          have hname : name.text ≠ "TOP" := Name.ne_of_mem_reserved (by decide)
          rw [← Option.some.inj ht]
          exact fun heq => hname (Token.word.inj heq)
      | calculation function argument name =>
          rw [← Option.some.inj ht]
          cases function <;> decide

/-- The tokens of a select, part after part. -/
theorem Select.tokens_eq (select : Select) :
    select.tokens = .word "SELECT" :: (topTokens select.top ++ (select.columns.tokens ++
      (.word "FROM" :: .word select.table.text ::
        (whereTokens select.condition ++ orderTokens select.order)))) := by
  simp [tokens]

/-- A select is read from its tokens, and so is the only one with these tokens. -/
theorem readSelect_tokens (select : Select) : readSelect select.tokens = some select := by
  have hwhere : readWhere (Select.whereTokens select.condition ++ Select.orderTokens select.order) =
      some (select.condition, Select.orderTokens select.order) := by
    apply readWhere_tokens
    · intro t ht
      rw [head?_orderTokens ht]
      decide
    · intro t ht
      rw [head?_orderTokens ht]
      decide
  -- From here on only what is read next counts, so what comes after it is given a name.
  rw [select.tokens_eq]
  generalize Select.whereTokens select.condition ++ Select.orderTokens select.order = rest at *
  have htable := readTable_tokens select.table rest
  generalize hbody : Token.word "FROM" :: .word select.table.text :: rest = body at *
  have hcolumns : readColumns (select.columns.tokens ++ body) = some (select.columns, body) := by
    apply readColumns_tokens
    rw [← hbody]
    simp
  have htop : readTop (Select.topTokens select.top ++ (select.columns.tokens ++ body)) =
      some (select.top, select.columns.tokens ++ body) :=
    readTop_tokens select.top fun t ht => head?_columnsTokens ht
  rw [readSelect, htop]
  simp only [Option.bind_eq_bind, Option.bind_some]
  rw [hcolumns]
  simp only [Option.bind_some]
  rw [htable]
  simp only [Option.bind_some]
  rw [hwhere]
  simp only [Option.bind_some]
  rw [readOrder_tokens]
  rfl

theorem read?_of_lexed? {text : String} {select : Select}
    (h : lexed? text = some select.tokens) : read? text = some select := by
  rw [read?, h, Option.bind_some, readSelect_tokens]

end CriteriaSql.Sql
