import CriteriaSql.Schema.Registry
import CriteriaSql.Text.Basic
import CriteriaSql.Toml.Reader

/-!
Configurations: a connection, and collections in the order of their file. A connection is shown
without its secrets.
-/

namespace CriteriaSql

/-! Connection settings. -/

structure Connection where
  text : Option String

namespace Connection

def isSecretKey (key : List Char) : Bool :=
  let name := Text.lower (Text.trim (String.ofList key))
  name == "pwd" || name == "password"

/-- A part is masked from its first equals sign on, if what stands before it is a secret's key. -/
def maskPart (part : List Char) : List Char :=
  let key := part.takeWhile (· != '=')
  if key.length < part.length && isSecretKey key then key ++ "=***".toList else part

/-- Every semicolon ends a part, wherever it stands. -/
def maskText (text : String) : String :=
  String.ofList (List.intercalate [';'] ((Text.pieces ';' text.toList).map maskPart))

def redacted (connection : Connection) : Option String :=
  connection.text.map maskText

end Connection

/-! Configurations. -/

structure Config where
  connection : Connection
  collections : OrderedMap Collection

namespace Config

inductive Unreadable where
  | notToml
  | wrongShape

def Unreadable.message : Unreadable → String
  | notToml => "the text is not a TOML document"
  | wrongShape => "a setting is given twice or is not of its kind"

def empty : Config where
  connection := ⟨none⟩
  collections := .empty

open Document

def connectionOf? (document : Document) : Option Connection := do
  match ← document.fields? [["connection_string", "connectionString"]] with
  | [given] => return ⟨← orDefault given none optionalText?⟩
  | _ => none

def collectionsOf? : Document → Option (OrderedMap Collection)
  | .record members => do
      return .ofList (← members.mapM fun member => do
        return (member.1, ← Collection.ofDocument? member.2))
  | _ => none

def ofDocument? (document : Document) : Option Config := do
  match ← document.fields? [["connection"], ["collections"]] with
  | [connection, collections] =>
      return {
        connection := ← orDefault connection ⟨none⟩ connectionOf?
        collections := ← orDefault collections .empty collectionsOf? }
  | _ => none

/-- A collection that names no identity has that of its key. -/
def nameByKey (key : String) (collection : Collection) : Collection :=
  if collection.identity = "" then { collection with identity := key } else collection

def withIdentities (config : Config) : Config :=
  { config with collections :=
    ⟨config.collections.entries.map fun entry => (entry.1, nameByKey entry.1 entry.2), by
      simpa [Function.comp_def] using config.collections.distinct⟩ }

def ofToml (text : String) : Except Unreadable Config :=
  match Toml.ofText? text with
  | none => .error .notToml
  | some value =>
      match ofDocument? (.ofToml value) with
      | none => .error .wrongShape
      | some config => .ok config.withIdentities

def registry (config : Config) : Registry :=
  .ofList config.collections.values

/-- A connection given from outside takes the place of the configured one, be it empty. -/
def withConnection (config : Config) (text : Option String) : Config :=
  match text with
  | none => config
  | some text => { config with connection := ⟨some text⟩ }

end Config

end CriteriaSql
