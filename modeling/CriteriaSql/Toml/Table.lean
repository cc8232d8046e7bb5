import CriteriaSql.OrderedMap
import CriteriaSql.Toml.Value

/-!
Tables while they are being written down. How a table came about decides what may be added to it
later: a key is given once, and a table is opened once.
-/

namespace CriteriaSql.Toml

inductive Origin where
  /-- Opened by a header of its own. -/
  | header
  /-- Named on the way to the table of a header, and still open. -/
  | path
  /-- Named on the way to a dotted key. -/
  | dotted
  deriving DecidableEq

inductive Item where
  | value (v : Value)
  | table (origin : Origin) (entries : List (String × Item))
  /-- An array of tables, the one that is still written to apart from those before it. -/
  | tables (earlier : List (List (String × Item))) (last : List (String × Item))

abbrev Entries := List (String × Item)

namespace Entries

/-- Goes down a path from a table, through the last table of each array of tables, and edits the
table at its end. Tables that are missing are made. The keys of a dotted path lead through no table
that was opened by a header. -/
def edit (made : Origin) (change : Origin → Entries → Option Entries) :
    List String → Origin → Entries → Option Entries
  | [], origin, entries => change origin entries
  | key :: path, _, entries =>
      match entries.lookup key with
      | none => do
          let inner ← edit made change path made []
          return entries ++ [(key, .table made inner)]
      | some (.value _) => none
      | some (.tables earlier last) => do
          let inner ← edit made change path .header last
          return OrderedMap.put key (.tables earlier inner) entries
      | some (.table origin inner) =>
          if made = .dotted ∧ origin = .header then
            none
          else do
            let inner ← edit made change path origin inner
            return OrderedMap.put key (.table origin inner) entries

def addNew (entries : Entries) (key : String) (item : Item) : Option Entries :=
  match entries.lookup key with
  | none => some (entries ++ [(key, item)])
  | some _ => none

/-- Sets a key, the last of a dotted path, that is not yet set. -/
def set (entries : Entries) (path : List String) (key : String) (value : Value) :
    Option Entries :=
  edit .dotted (fun origin table =>
    if path.isEmpty ∨ origin = .dotted then addNew table key (.value value) else none)
    path .header entries

/-- Takes out the table that a header opens, with what is already in it. Only a table that was
named on the way to another may be opened. -/
def takeTable (entries : Entries) (path : List String) (key : String) :
    Option (Entries × Entries) := do
  let opened ← contents
  let rest ← edit .path (fun _ table => some (table.filter fun entry => entry.1 != key))
    path .header entries
  return (opened, rest)
where
  contents : Option Entries := find path entries
  find : List String → Entries → Option Entries
    | [], table =>
        match table.lookup key with
        | none => some []
        | some (.table .path inner) => some inner
        | some _ => none
    | step :: path, table =>
        match table.lookup step with
        | none => some []
        | some (.value _) => none
        | some (.tables _ last) => find path last
        | some (.table _ inner) => find path inner

/-- Puts a table in at the end of its parent. -/
def putTable (entries : Entries) (path : List String) (key : String) (table : Entries) :
    Option Entries :=
  edit .path (fun _ parent => addNew parent key (.table .header table)) path .header entries

/-- Adds a table to an array of tables, or begins one. -/
def pushTable (entries : Entries) (path : List String) (key : String) (table : Entries) :
    Option Entries :=
  edit .path (fun _ parent =>
    match parent.lookup key with
    | none => some (parent ++ [(key, .tables [] table)])
    | some (.tables earlier last) =>
        some (OrderedMap.put key (.tables (earlier ++ [last]) table) parent)
    | some _ => none)
    path .header entries

end Entries

mutual

def Item.finish : Item → Value
  | .value v => v
  | .table _ entries => .table (finishEntries entries)
  | .tables earlier last => .array (finishTables earlier ++ [.table (finishEntries last)])

def finishEntries : List (String × Item) → List (String × Value)
  | [] => []
  | (key, item) :: rest => (key, item.finish) :: finishEntries rest

def finishTables : List (List (String × Item)) → List Value
  | [] => []
  | entries :: rest => .table (finishEntries entries) :: finishTables rest

end

end CriteriaSql.Toml
