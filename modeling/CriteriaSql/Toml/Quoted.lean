import CriteriaSql.Text.Numeral

/-! What lies between the parts of a document, and strings. A line ends in a line feed here. -/

namespace CriteriaSql.Toml

open Text (hexValue?)

/-! Blanks, comments and the ends of lines. -/

/-- A carriage return before a line feed belongs to the end of the line. -/
def joinLineEnds : List Char → List Char
  | '\r' :: '\n' :: rest => '\n' :: joinLineEnds rest
  | c :: rest => c :: joinLineEnds rest
  | [] => []

def isBlank (c : Char) : Bool :=
  c = ' ' || c = '\t'

def skipBlanks (cs : List Char) : List Char :=
  cs.dropWhile isBlank

/-- Characters that may be written as they are: the tab and all that is no control character. -/
def isPlain (c : Char) : Bool :=
  c = '\t' || (0x20 ≤ c.toNat && c.toNat ≠ 0x7F)

/-- What may still follow on a line: blanks and a comment. -/
def endLine (cs : List Char) : Option (List Char) :=
  let cs := skipBlanks cs
  let cs := if cs.head? = some '#' then cs.dropWhile isPlain else cs
  match cs with
  | [] => some []
  | c :: rest => if c = '\n' then some rest else none

/-- Blanks, line ends and comments between the items of an array. -/
def skipLines : (inComment : Bool) → List Char → Option (List Char)
  | _, [] => some []
  | true, c :: rest =>
      if c = '\n' then skipLines false rest
      else if isPlain c then skipLines true rest
      else none
  | false, c :: rest =>
      if isBlank c || c = '\n' then skipLines false rest
      else if c = '#' then skipLines true rest
      else some (c :: rest)

/-!
The four forms of a string: with escapes or literal, on one line or on several. Each reader starts
after the opening quotes and gives the text and what follows the closing ones.
-/

/-- The character of a hexadecimal number, which has to be a scalar value of Unicode. -/
def scalar? (digits : List Char) : Option Char := do
  let values ← digits.mapM hexValue?
  let n := values.foldl (fun n value => n * 16 + value) 0
  if n.isValidChar then return Char.ofNat n else none

def escaped? (c : Char) : Option Char :=
  if c = 'b' then some '\x08'
  else if c = 't' then some '\t'
  else if c = 'n' then some '\n'
  else if c = 'f' then some '\x0c'
  else if c = 'r' then some '\r'
  else if c = '"' || c = '\\' then some c
  else none

/-- The quotes that belong to the text when it ends in more than the three that close it. -/
def closing (quote : Char) : List Char → List Char × List Char
  | a :: b :: rest =>
      if a = quote then
        if b = quote then ([quote, quote], rest) else ([quote], b :: rest)
      else ([], a :: b :: rest)
  | a :: rest => if a = quote then ([quote], rest) else ([], a :: rest)
  | [] => ([], [])

def readBasic : List Char → Option (List Char × List Char)
  | [] => none
  | '"' :: rest => some ([], rest)
  | '\\' :: 'u' :: a :: b :: c :: d :: rest => do
      let char ← scalar? [a, b, c, d]
      let (more, rest) ← readBasic rest
      return (char :: more, rest)
  | '\\' :: 'U' :: a :: b :: c :: d :: e :: f :: g :: h :: rest => do
      let char ← scalar? [a, b, c, d, e, f, g, h]
      let (more, rest) ← readBasic rest
      return (char :: more, rest)
  | '\\' :: c :: rest => do
      let char ← escaped? c
      let (more, rest) ← readBasic rest
      return (char :: more, rest)
  | c :: rest => do
      if isPlain c then
        let (more, rest) ← readBasic rest
        return (c :: more, rest)
      else
        none

def readLiteral : List Char → Option (List Char × List Char)
  | [] => none
  | '\'' :: rest => some ([], rest)
  | c :: rest => do
      if isPlain c then
        let (more, rest) ← readLiteral rest
        return (c :: more, rest)
      else
        none

/-- A backslash at the end of a line takes away all blanks and line ends after it: `joining` is set
while they are passed over. -/
def readBasicLines : (joining : Bool) → List Char → Option (List Char × List Char)
  | _, [] => none
  | _, '"' :: '"' :: '"' :: rest => some (closing '"' rest)
  | _, '\\' :: 'u' :: a :: b :: c :: d :: rest => do
      let char ← scalar? [a, b, c, d]
      let (more, rest) ← readBasicLines false rest
      return (char :: more, rest)
  | _, '\\' :: 'U' :: a :: b :: c :: d :: e :: f :: g :: h :: rest => do
      let char ← scalar? [a, b, c, d, e, f, g, h]
      let (more, rest) ← readBasicLines false rest
      return (char :: more, rest)
  | _, '\\' :: c :: rest => do
      if (skipBlanks (c :: rest)).head? = some '\n' then
        readBasicLines true rest
      else
        let char ← escaped? c
        let (more, rest) ← readBasicLines false rest
        return (char :: more, rest)
  | joining, c :: rest => do
      if joining && (isBlank c || c = '\n') then
        readBasicLines true rest
      else if isPlain c || c = '\n' then
        let (more, rest) ← readBasicLines false rest
        return (c :: more, rest)
      else
        none

def readLiteralLines : List Char → Option (List Char × List Char)
  | [] => none
  | '\'' :: '\'' :: '\'' :: rest => some (closing '\'' rest)
  | c :: rest => do
      if isPlain c || c = '\n' then
        let (more, rest) ← readLiteralLines rest
        return (c :: more, rest)
      else
        none

/-- A line end right after the opening quotes is not part of the text. -/
def dropFirstLineEnd : List Char → List Char
  | '\n' :: rest => rest
  | cs => cs

/-- A string on one line, as a key may be written too. -/
def readQuoted : List Char → Option (String × List Char)
  | '"' :: rest => do
      let (text, rest) ← readBasic rest
      return (String.ofList text, rest)
  | '\'' :: rest => do
      let (text, rest) ← readLiteral rest
      return (String.ofList text, rest)
  | _ => none

def readString : List Char → Option (String × List Char)
  | '"' :: '"' :: '"' :: rest => do
      let (text, rest) ← readBasicLines false (dropFirstLineEnd rest)
      return (String.ofList text, rest)
  | '\'' :: '\'' :: '\'' :: rest => do
      let (text, rest) ← readLiteralLines (dropFirstLineEnd rest)
      return (String.ofList text, rest)
  | cs => readQuoted cs

end CriteriaSql.Toml
