import CriteriaSql.Double.Reader
import CriteriaSql.Json.Basic
import CriteriaSql.OrderedMap
import CriteriaSql.Text.Numeral

/-!
Strict reading of JSON text. A reader takes the characters ahead of it and gives what it read
together with the rest. Nesting stops at 127 arrays and objects.
-/

namespace CriteriaSql.Json

open Text (hexValue? readDigits readExponent decimalValue)

/-- The white space of JSON: space, tab, line feed, carriage return. -/
def isSpace (c : Char) : Bool :=
  c = ' ' || c = '\t' || c = '\n' || c = '\r'

def skipSpace (cs : List Char) : List Char :=
  cs.dropWhile isSpace

/-- A part of a string: a character, or a UTF-16 unit given by a four-digit escape. -/
inductive Element where
  | char (c : Char)
  | unit (n : Nat)

def fourHex? (a b c d : Char) : Option Nat := do
  return (((← hexValue? a) * 16 + (← hexValue? b)) * 16 + (← hexValue? c)) * 16 + (← hexValue? d)

def escaped? (c : Char) : Option Char :=
  if c = '"' || c = '\\' || c = '/' then some c
  else if c = 'b' then some '\x08'
  else if c = 'f' then some '\x0c'
  else if c = 'n' then some '\n'
  else if c = 'r' then some '\r'
  else if c = 't' then some '\t'
  else none

/-- The inside of a string, up to the closing quote. -/
def elements : List Char → Option (List Element × List Char)
  | [] => none
  | '"' :: rest => some ([], rest)
  | '\\' :: 'u' :: a :: b :: c :: d :: rest => do
      let unit ← fourHex? a b c d
      let (more, rest) ← elements rest
      return (.unit unit :: more, rest)
  | '\\' :: c :: rest => do
      let char ← escaped? c
      let (more, rest) ← elements rest
      return (.char char :: more, rest)
  | c :: rest => do
      if c.toNat < 0x20 then
        none
      else
        let (more, rest) ← elements rest
        return (.char c :: more, rest)

def isHighSurrogate (n : Nat) : Bool :=
  0xD800 ≤ n && n ≤ 0xDBFF

def isLowSurrogate (n : Nat) : Bool :=
  0xDC00 ≤ n && n ≤ 0xDFFF

/-- Joins surrogate pairs. A surrogate without its partner is refused. -/
def assemble : List Element → Option (List Char)
  | [] => some []
  | .char c :: rest => do
      return c :: (← assemble rest)
  | .unit high :: .unit low :: rest =>
      if isHighSurrogate high then
        if isLowSurrogate low then do
          return Char.ofNat (0x10000 + (high - 0xD800) * 0x400 + (low - 0xDC00)) ::
            (← assemble rest)
        else
          none
      else if isLowSurrogate high then
        none
      else do
        return Char.ofNat high :: (← assemble (.unit low :: rest))
  | .unit n :: rest =>
      if isHighSurrogate n || isLowSurrogate n then
        none
      else do
        return Char.ofNat n :: (← assemble rest)

def readString : List Char → Option (String × List Char)
  | '"' :: cs => do
      let (parts, rest) ← elements cs
      return (String.ofList (← assemble parts), rest)
  | _ => none

def readFraction : List Char → Option (List Char × List Char)
  | '.' :: cs => readDigits cs
  | cs => some ([], cs)

/-- An integer that fits 64 bits stays one. Zero with a minus sign is a float. -/
def Number.ofInteger? (negative : Bool) (size : Nat) : Option Number :=
  let n : Int := if negative then -size else size
  if leastInt64 ≤ n && n ≤ greatestWord64 && !(negative && size == 0) then some (.integer n)
  else float?
where
  float? : Option Number :=
    match Double.ofDecimal negative size 0 with
    | .finite n m e h => some (.float (.finite n m e h))
    | _ => none

/-- What follows the whole part is neither a fraction nor an exponent. -/
def isIntegral : List Char → Bool
  | c :: _ => !(c = '.' || c = 'e' || c = 'E')
  | [] => true

/-- What is not written as an integer is the double nearest to it. A number beyond the largest
double is refused. -/
def readNumber (cs : List Char) : Option (Number × List Char) := do
  let (negative, cs) := match cs with
    | '-' :: rest => (true, rest)
    | rest => (false, rest)
  let (whole, afterWhole) ← readDigits cs
  if whole.length > 1 && whole.head? == some '0' then
    none
  else
    let (fraction, afterFraction) ← readFraction afterWhole
    let (exponent, rest) ← readExponent afterFraction
    if isIntegral afterWhole then
      return (← Number.ofInteger? negative (decimalValue whole), rest)
    else
      let significand := decimalValue (whole ++ fraction)
      let value := Double.ofDecimal negative significand (exponent - fraction.length)
      if value.isFinite then
        return (.float value, rest)
      else
        none

/-- Items set apart by commas, up to `close`. Each takes a character at least, so there are no more
than `bound` of them. -/
def itemsUpTo (close : Char) (item : List Char → Option (α × List Char)) :
    (bound : Nat) → List Char → Option (List α × List Char)
  | 0, _ => none
  | bound + 1, cs => do
      let (first, rest) ← item cs
      match skipSpace rest with
      | [] => none
      | c :: rest =>
          if c = close then
            return ([first], rest)
          else if c = ',' then
            let (more, rest) ← itemsUpTo close item bound rest
            return (first :: more, rest)
          else
            none

/-- The inside of an array or object, possibly empty, up to and with its closing bracket. -/
def itemsWithin (close : Char) (item : List Char → Option (α × List Char)) (cs : List Char) :
    Option (List α × List Char) :=
  match skipSpace cs with
  | [] => none
  | c :: rest => if c = close then some ([], rest) else itemsUpTo close item cs.length cs

def readMember (value : List Char → Option (Json × List Char)) (cs : List Char) :
    Option ((String × Json) × List Char) := do
  let (key, rest) ← readString (skipSpace cs)
  match skipSpace rest with
  | ':' :: rest =>
      let (content, rest) ← value rest
      return ((key, content), rest)
  | _ => none

def readWord (word : List Char) (value : Json) (cs : List Char) : Option (Json × List Char) :=
  if word.isPrefixOf cs then some (value, cs.drop word.length) else none

/-- What an object makes of its members: a key written again keeps its place and takes the last
value. -/
def mergeMembers (members : List (String × Json)) : List (String × Json) :=
  members.foldl (fun merged member => OrderedMap.put member.1 member.2 merged) []

/-- A value whose arrays and objects hold what `nested` reads; without it there are none. -/
def readWith (nested : Option (List Char → Option (Json × List Char))) (cs : List Char) :
    Option (Json × List Char) :=
  match skipSpace cs with
  | [] => none
  | c :: rest =>
      if c = 'n' then readWord "null".toList null (c :: rest)
      else if c = 't' then readWord "true".toList (bool true) (c :: rest)
      else if c = 'f' then readWord "false".toList (bool false) (c :: rest)
      else if c = '"' then (readString (c :: rest)).map fun (s, rest) => (string s, rest)
      else if c = '[' then do
        let (items, rest) ← itemsWithin ']' (← nested) rest
        return (array items, rest)
      else if c = '\x7b' then do
        let (members, rest) ← itemsWithin '\x7d' (readMember (← nested)) rest
        return (object (mergeMembers members), rest)
      else (readNumber (c :: rest)).map fun (n, rest) => (number n, rest)

/-- A value with at most `depth` arrays and objects inside one another. -/
def read : (depth : Nat) → List Char → Option (Json × List Char)
  | 0 => readWith none
  | depth + 1 => readWith (some (read depth))

def maxDepth : Nat := 127

/-- A whole text: one value, with nothing but white space around it. -/
def ofText? (text : String) : Option Json := do
  let (value, rest) ← read maxDepth text.toList
  if (skipSpace rest).isEmpty then return value else none

/-!
Passing over a value that nobody wants. Its form is checked, but not whether its numbers and
surrogates mean anything, nor how deep it goes.
-/

def skipString : List Char → Option (List Char)
  | '"' :: cs => (elements cs).map Prod.snd
  | _ => none

def skipNumber (cs : List Char) : Option (List Char) := do
  let cs := match cs with
    | '-' :: rest => rest
    | rest => rest
  let (whole, cs) ← readDigits cs
  if whole.length > 1 && whole.head? == some '0' then
    none
  else
    let (_, cs) ← readFraction cs
    let (_, cs) ← readExponent cs
    return cs

def skipWord (word cs : List Char) : Option (List Char) :=
  if word.isPrefixOf cs then some (cs.drop word.length) else none

def skipMember (value : List Char → Option (Unit × List Char)) (cs : List Char) :
    Option (Unit × List Char) := do
  match skipSpace (← skipString (skipSpace cs)) with
  | ':' :: rest => value rest
  | _ => none

def skipWith (nested : List Char → Option (Unit × List Char)) (cs : List Char) :
    Option (Unit × List Char) := do
  match skipSpace cs with
  | [] => none
  | c :: rest =>
      if c = 'n' then return ((), ← skipWord "null".toList (c :: rest))
      else if c = 't' then return ((), ← skipWord "true".toList (c :: rest))
      else if c = 'f' then return ((), ← skipWord "false".toList (c :: rest))
      else if c = '"' then return ((), ← skipString (c :: rest))
      else if c = '[' then return ((), (← itemsWithin ']' nested rest).2)
      else if c = '\x7b' then return ((), (← itemsWithin '\x7d' (skipMember nested) rest).2)
      else return ((), ← skipNumber (c :: rest))

def skipTo : (depth : Nat) → List Char → Option (Unit × List Char)
  | 0 => fun _ => none
  | depth + 1 => skipWith (skipTo depth)

/-- Every level of nesting takes a character, so the length bounds the depth. -/
def skip (cs : List Char) : Option (List Char) :=
  (skipTo cs.length cs).map Prod.snd

end CriteriaSql.Json
