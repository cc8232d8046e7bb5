import CriteriaSql.Text.Readable

/-! What is reported along the way, and values that come with such reports. -/

namespace CriteriaSql

inductive Event where
  | clausesIgnored (table : String)
  | typeUnregistered (declared : Option String)
  | registering (identity table primaryKey : String)
  | executing (sql : String)

namespace Event

inductive Level where
  | warn
  | debug

def level : Event → Level
  | clausesIgnored _ => .warn
  | typeUnregistered _ => .warn
  | registering .. => .debug
  | executing _ => .debug

def message : Event → String
  | clausesIgnored _ => "where/sort/limit are ignored by aggregate selects"
  | typeUnregistered _ => "Unregistered type given, falling back to TEXT"
  | registering .. => "registering collection"
  | executing _ => "executing"

/-- What cannot be read when it stands alone is shown by its number. -/
def shownChar (c : Char) : List Char :=
  if c = '"' then ['\\', '"']
  else if c = '\\' then ['\\', '\\']
  else if c = '\n' then ['\\', 'n']
  else if c = '\r' then ['\\', 'r']
  else if c = '\t' then ['\\', 't']
  else if c = '\x00' then ['\\', '0']
  else if !Text.isReadable c then '\\' :: 'u' :: '\x7b' :: Nat.toDigits 16 c.toNat ++ ['\x7d']
  else [c]

/-- A declared type as a report shows it, quoted and escaped. -/
def shownType : Option String → String
  | none => "None"
  | some declared =>
      String.ofList ("Some(\"".toList ++ declared.toList.flatMap shownChar ++ "\")".toList)

def fields : Event → List (String × String)
  | clausesIgnored table => [("table", table)]
  | typeUnregistered declared => [("declared", shownType declared)]
  | registering identity table primaryKey =>
      [("identity", identity), ("table", table), ("primary_key", primaryKey)]
  | executing sql => [("sql", sql)]

end Event

/-- A value, and what was reported while it was made, in order. -/
structure Logged (α : Type u) where
  value : α
  events : List Event

namespace Logged

instance : Monad Logged where
  pure value := ⟨value, []⟩
  bind logged next :=
    let result := next logged.value
    ⟨result.value, logged.events ++ result.events⟩

@[ext] theorem ext {a b : Logged α} (hvalue : a.value = b.value) (hevents : a.events = b.events) :
    a = b := by
  cases a; cases b; cases hvalue; cases hevents; rfl

instance : LawfulMonad Logged :=
  .mk' Logged
    (fun logged => Logged.ext rfl (List.append_nil logged.events))
    (fun _ _ => rfl)
    (fun logged _ _ => Logged.ext rfl (List.append_assoc logged.events _ _))

@[simp] theorem value_pure (value : α) : (pure value : Logged α).value = value := rfl

@[simp] theorem events_pure (value : α) : (pure value : Logged α).events = [] := rfl

@[simp] theorem value_bind (logged : Logged α) (next : α → Logged β) :
    (logged >>= next).value = (next logged.value).value := rfl

@[simp] theorem events_bind (logged : Logged α) (next : α → Logged β) :
    (logged >>= next).events = logged.events ++ (next logged.value).events := rfl

section

variable (f : α → Logged β) (items : List α)

theorem value_mapM : (items.mapM f).value = items.map fun item => (f item).value := by
  induction items with
  | nil => rfl
  | cons item rest ih =>
      rw [List.mapM_cons, List.map_cons, ← ih]
      simp only [value_bind, value_pure]

theorem events_mapM : (items.mapM f).events = items.flatMap fun item => (f item).events := by
  induction items with
  | nil => rfl
  | cons item rest ih =>
      rw [List.mapM_cons, List.flatMap_cons, ← ih]
      simp only [events_bind, events_pure, List.append_nil]

end

end Logged

end CriteriaSql
