import CriteriaSql.Json.Reader
import CriteriaSql.Schema.Registry

/-!
Definitions as documents give them: by name, each field under one of its names, or by place in a
list.
-/

namespace CriteriaSql

/-- What a document of whatever format holds, as far as definitions are concerned. A list is either
`closed`, so that every item of it has to be wanted, or its surplus items do not matter. -/
inductive Document where
  | null
  | flag (b : Bool)
  | number
  | text (s : String)
  | list (closed : Bool) (items : List Document)
  | record (members : List (String × Document))

namespace Document

mutual

def ofJson : Json → Document
  | .null => null
  | .bool b => flag b
  | .number _ => number
  | .string s => text s
  | .array items => list true (ofItems items)
  | .object members => record (ofMembers members)

def ofItems : List Json → List Document
  | [] => []
  | item :: rest => ofJson item :: ofItems rest

def ofMembers : List (String × Json) → List (String × Document)
  | [] => []
  | (key, value) :: rest => (key, ofJson value) :: ofMembers rest

end

def flag? : Document → Option Bool
  | flag b => some b
  | _ => none

def text? : Document → Option String
  | text s => some s
  | _ => none

/-- A text that may be left out by writing null. -/
def optionalText? : Document → Option (Option String)
  | null => some none
  | text s => some (some s)
  | _ => none

/-- The fields of a structure in their order, each by its names. -/
abbrev Fields := List (List String)

/-- The value of a field: none if it is not given, and no answer if it is given twice. -/
def field? (names : List String) (members : List (String × Document)) :
    Option (Option Document) :=
  match members.filter fun member => names.contains member.1 with
  | [] => some none
  | [member] => some (some member.2)
  | _ => none

/-- The values of a structure's fields. Unknown names are passed over. -/
def fields? (fields : Fields) : Document → Option (List (Option Document))
  | record members => fields.mapM fun names => field? names members
  | list closed items =>
      if closed && fields.length < items.length then none
      else some ((items.take fields.length).map some ++
        List.replicate (fields.length - items.length) none)
  | _ => none

/-- A field that is not given has its default. -/
def orDefault (value : Option Document) (default : α) (read : Document → Option α) : Option α :=
  match value with
  | none => some default
  | some document => read document

end Document

open Document

namespace Column

def fields : Fields :=
  [["type", "column_type"], ["primary_key", "primaryKey"], ["unique"],
    ["auto_increment", "autoIncrement"], ["indexed"], ["nullable"]]

def ofDocument? (document : Document) : Option Column := do
  match ← document.fields? fields with
  | [type, primaryKey, unique, autoIncrement, indexed, nullable] =>
      return {
        declaredType := ← orDefault type none optionalText?
        primaryKey := ← orDefault primaryKey false flag?
        unique := ← orDefault unique false flag?
        autoIncrement := ← orDefault autoIncrement false flag?
        indexed := ← orDefault indexed false flag?
        nullable := ← orDefault nullable false flag? }
  | _ => none

end Column

/-- Columns by name. A name given again keeps its place and takes the last column. -/
def Definition.ofDocument? : Document → Option Definition
  | .record members => do
      return .ofList (← members.mapM fun member => do
        return (member.1, ← Column.ofDocument? member.2))
  | _ => none

namespace Collection

def fields : Fields :=
  [["identity"], ["table_name", "tableName"], ["attributes", "definition"]]

def ofDocument? (document : Document) : Option Collection := do
  match ← document.fields? fields with
  | [identity, tableName, attributes] =>
      return {
        identity := ← orDefault identity "" text?
        tableName := ← orDefault tableName none optionalText?
        attributes := ← orDefault attributes .empty Definition.ofDocument? }
  | _ => none

end Collection

/-!
A column definition straight from JSON text. Here a field that is written twice is noticed, even
under one name, and members that are no fields are passed over unread.
-/

namespace Column

open Json

def isFieldName (key : String) : Bool :=
  fields.any fun names => names.contains key

/-- A member that is no field leaves only its key. -/
def readMember (cs : List Char) : Option ((String × Document) × List Char) := do
  let (key, rest) ← readString (skipSpace cs)
  match skipSpace rest with
  | ':' :: rest =>
      if isFieldName key then
        let (value, rest) ← read maxDepth rest
        return ((key, .ofJson value), rest)
      else
        return ((key, .null), ← skip rest)
  | _ => none

def readDocument (cs : List Char) : Option (Document × List Char) := do
  match skipSpace cs with
  | '\x7b' :: rest =>
      let (members, rest) ← itemsWithin '\x7d' readMember rest
      return (.record members, rest)
  | '[' :: rest =>
      let (items, rest) ← itemsWithin ']' (read maxDepth) rest
      return (.list true (items.map .ofJson), rest)
  | _ => none

def ofText? (text : String) : Option Column := do
  let (document, rest) ← readDocument text.toList
  if (skipSpace rest).isEmpty then ofDocument? document else none

end Column

end CriteriaSql
