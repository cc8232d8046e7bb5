import CriteriaSql.Toml.Scalar
import CriteriaSql.Toml.Table

/-! Reading a TOML document. -/

namespace CriteriaSql.Toml

/-- Arrays and inline tables may stand this deep in one another, and keys have this many parts. -/
def maxDepth : Nat := 79

def isBareKeyChar (c : Char) : Bool :=
  c.isAlphanum || c = '_' || c = '-'

def readSimpleKey (cs : List Char) : Option (String × List Char) :=
  let bare := cs.takeWhile isBareKeyChar
  if bare.isEmpty then readQuoted cs
  else some (String.ofList bare, cs.dropWhile isBareKeyChar)

/-- The parts of a dotted key, with blanks around each. -/
def readKeyParts : (bound : Nat) → List Char → Option (List String × List Char)
  | 0, _ => none
  | bound + 1, cs => do
      let (part, rest) ← readSimpleKey (skipBlanks cs)
      match skipBlanks rest with
      | '.' :: rest =>
          let (parts, rest) ← readKeyParts bound rest
          return (part :: parts, rest)
      | rest => return ([part], rest)

/-- A dotted key: the path to its table, and the last part. -/
def readKey (cs : List Char) : Option ((List String × String) × List Char) := do
  let (parts, rest) ← readKeyParts maxDepth cs
  return ((parts.dropLast, ← parts.getLast?), rest)

def readItems (value : List Char → Option (Value × List Char)) :
    (bound : Nat) → List Char → Option (List Value × List Char)
  | 0, _ => none
  | bound + 1, cs => do
      match ← skipLines false cs with
      | [] => none
      | ']' :: rest => return ([], rest)
      | cs =>
          let (item, rest) ← value cs
          match ← skipLines false rest with
          | ',' :: rest =>
              let (items, rest) ← readItems value bound rest
              return (item :: items, rest)
          | ']' :: rest => return ([item], rest)
          | _ => none

/-- A key and its value, put into the table that is being written. -/
def readSetting (value : List Char → Option (Value × List Char)) (entries : Entries)
    (cs : List Char) : Option (Entries × List Char) := do
  let ((path, key), rest) ← readKey cs
  match rest with
  | '=' :: rest =>
      let (content, rest) ← value (skipBlanks rest)
      return (← entries.set path key content, rest)
  | _ => none

/-- The settings of an inline table, on one line and with no comma after the last. -/
def readInline (value : List Char → Option (Value × List Char)) :
    (bound : Nat) → Entries → List Char → Option (Entries × List Char)
  | 0, _, _ => none
  | bound + 1, entries, cs => do
      let (entries, rest) ← readSetting value entries cs
      match skipBlanks rest with
      | ',' :: rest => readInline value bound entries rest
      | '\x7d' :: rest => return (entries, rest)
      | _ => none

/-- A value whose arrays and inline tables hold what `nested` reads; without it there are none. -/
def readValueWith (nested : Option (List Char → Option (Value × List Char))) (cs : List Char) :
    Option (Value × List Char) :=
  match cs with
  | [] => none
  | c :: rest =>
      if c = '"' || c = '\'' then
        (readString cs).map fun (text, rest) => (.string text, rest)
      else if c = '[' then do
        let (items, rest) ← readItems (← nested) (cs.length) rest
        return (.array items, rest)
      else if c = '\x7b' then do
        let value ← nested
        match skipBlanks rest with
        | '\x7d' :: rest => return (.table [], rest)
        | rest =>
            let (entries, rest) ← readInline value cs.length [] rest
            return (.table (finishEntries entries), rest)
      else do
        let (word, rest) := spanScalar cs
        return (← scalarOf? word, rest)

def readValueTo : (depth : Nat) → List Char → Option (Value × List Char)
  | 0 => readValueWith none
  | depth + 1 => readValueWith (some (readValueTo depth))

def readValue : List Char → Option (Value × List Char) :=
  readValueTo maxDepth

/-- Where the table that is being written will go. -/
inductive Place where
  | root
  | table (path : List String) (key : String)
  | element (path : List String) (key : String)

/-- The tables that are finished, and the one that is being written. -/
structure Draft where
  finished : Entries
  current : Entries
  place : Place

namespace Draft

def empty : Draft := ⟨[], [], .root⟩

def close (draft : Draft) : Option Entries :=
  match draft.place with
  | .root => some draft.current
  | .table path key => draft.finished.putTable path key draft.current
  | .element path key => draft.finished.pushTable path key draft.current

def openTable (draft : Draft) (path : List String) (key : String) : Option Draft := do
  let (current, finished) ← (← draft.close).takeTable path key
  return { finished, current, place := .table path key }

def openElement (draft : Draft) (path : List String) (key : String) : Option Draft := do
  return { finished := ← draft.close, current := [], place := .element path key }

end Draft

/-- A header, after its first bracket. -/
def readHeader (draft : Draft) : List Char → Option (Draft × List Char)
  | '[' :: cs => do
      let ((path, key), rest) ← readKey cs
      match rest with
      | ']' :: ']' :: rest => return (← draft.openElement path key, rest)
      | _ => none
  | cs => do
      let ((path, key), rest) ← readKey cs
      match rest with
      | ']' :: rest => return (← draft.openTable path key, rest)
      | _ => none

/-- Reads line after line: a header, a setting, or nothing but a comment. -/
def readLines : (bound : Nat) → Draft → List Char → Option Draft
  | 0, _, _ => none
  | bound + 1, draft, cs => do
      match skipBlanks cs with
      | [] => return draft
      | c :: rest =>
          if c = '\n' || c = '#' then
            readLines bound draft (← endLine (c :: rest))
          else if c = '[' then
            let (draft, rest) ← readHeader draft rest
            readLines bound draft (← endLine rest)
          else
            let (current, rest) ← readSetting readValue draft.current (c :: rest)
            readLines bound { draft with current } (← endLine rest)

def dropByteOrderMark : List Char → List Char
  | '\uFEFF' :: rest => rest
  | cs => cs

/-- A whole document. Each line takes a character at least, and one more round ends it. -/
def ofText? (text : String) : Option Value := do
  let cs := joinLineEnds (dropByteOrderMark text.toList)
  let draft ← readLines (cs.length + 1) .empty cs
  return .table (finishEntries (← draft.close))

end CriteriaSql.Toml
