import IncludeGraph.Json

/-! Reading JSON text whose numbers are natural. Readers return what they read and the characters after it. -/

namespace IncludeGraph.Json

def skipSpace (text : List Char) : List Char :=
  text.dropWhile fun c => c = ' ' || c = '\n' || c = '\r' || c = '\t'

def hexDigit? (c : Char) : Option Nat :=
  if '0' ≤ c && c ≤ '9' then some (c.toNat - '0'.toNat)
  else if 'a' ≤ c && c ≤ 'f' then some (c.toNat - 'a'.toNat + 10)
  else if 'A' ≤ c && c ≤ 'F' then some (c.toNat - 'A'.toNat + 10)
  else none

def hex4? (a b c d : Char) : Option Nat := do
  return (← hexDigit? a) * 4096 + (← hexDigit? b) * 256 + (← hexDigit? c) * 16 + (← hexDigit? d)

def unescape? : Char → Option Char
  | '"' => some '"'
  | '\\' => some '\\'
  | '/' => some '/'
  | 'b' => some '\x08'
  | 'f' => some '\x0c'
  | 'n' => some '\n'
  | 'r' => some '\r'
  | 't' => some '\t'
  | _ => none

/-- The first UTF-16 unit of a pair. -/
def isLeading (unit : Nat) : Bool := 0xD800 ≤ unit && unit < 0xDC00

/-- The second UTF-16 unit of a pair. -/
def isTrailing (unit : Nat) : Bool := 0xDC00 ≤ unit && unit < 0xE000

/-- Reads the rest of a string up to its closing quote. A pair of units is one character; a unit of a pair that
stands alone is no character. Control characters have to be escaped. -/
def readString : List Char → Option (List Char × List Char)
  | [] => none
  | '"' :: rest => some ([], rest)
  | '\\' :: 'u' :: a :: b :: c :: d :: '\\' :: 'u' :: e :: f :: g :: h :: rest => do
    let first ← hex4? a b c d
    if isLeading first then
      let second ← hex4? e f g h
      if isTrailing second then
        let (text, after) ← readString rest
        return (Char.ofNat (0x10000 + (first - 0xD800) * 0x400 + (second - 0xDC00)) :: text, after)
      else none
    else if isTrailing first then none
    else
      let (text, after) ← readString ('\\' :: 'u' :: e :: f :: g :: h :: rest)
      return (Char.ofNat first :: text, after)
  | '\\' :: 'u' :: a :: b :: c :: d :: rest => do
    let unit ← hex4? a b c d
    if isLeading unit || isTrailing unit then none
    else
      let (text, after) ← readString rest
      return (Char.ofNat unit :: text, after)
  | '\\' :: c :: rest => do
    let meant ← unescape? c
    let (text, after) ← readString rest
    return (meant :: text, after)
  | c :: rest => do
    if c.toNat < 0x20 then none
    else
      let (text, after) ← readString rest
      return (c :: text, after)

/-- Reads a number, in which zero is the only one that begins with a zero. -/
def readNumber (text : List Char) : Option (Json × List Char) :=
  let digits := text.takeWhile Char.isDigit
  if digits = [] || digits.head? = some '0' && digits ≠ ['0'] then none
  else some (.number (Nat.ofDigitChars 10 digits 0), text.dropWhile Char.isDigit)

def readWord (word : String) (value : Json) (text : List Char) : Option (Json × List Char) :=
  if word.toList.isPrefixOf text then some (value, text.drop word.length) else none

mutual

/-- Reads a value that is nested at most so deep, counting items and members as further levels. -/
def readValue : Nat → List Char → Option (Json × List Char)
  | 0, _ => none
  | depth + 1, text =>
    match skipSpace text with
    | '"' :: rest => (readString rest).map fun (value, after) => (.string (String.ofList value), after)
    | '[' :: rest =>
      match skipSpace rest with
      | ']' :: after => some (.array [], after)
      | rest => (readItems depth rest).map fun (items, after) => (.array items, after)
    | '\x7b' :: rest =>
      match skipSpace rest with
      | '\x7d' :: after => some (.object [], after)
      | rest => (readMembers depth rest).map fun (members, after) => (.object members, after)
    | 'n' :: rest => readWord "null" .null ('n' :: rest)
    | 't' :: rest => readWord "true" (.bool true) ('t' :: rest)
    | 'f' :: rest => readWord "false" (.bool false) ('f' :: rest)
    | rest => readNumber rest

def readItems : Nat → List Char → Option (List Json × List Char)
  | 0, _ => none
  | depth + 1, text => do
    let (item, rest) ← readValue depth text
    match skipSpace rest with
    | ',' :: rest =>
      let (items, after) ← readItems depth rest
      return (item :: items, after)
    | ']' :: after => return ([item], after)
    | _ => none

def readMembers : Nat → List Char → Option (List (String × Json) × List Char)
  | 0, _ => none
  | depth + 1, text => do
    let '"' :: rest := skipSpace text | none
    let (name, rest) ← readString rest
    let ':' :: rest := skipSpace rest | none
    let (value, rest) ← readValue depth rest
    match skipSpace rest with
    | ',' :: rest =>
      let (members, after) ← readMembers depth rest
      return ((String.ofList name, value) :: members, after)
    | '\x7d' :: after => return ([(String.ofList name, value)], after)
    | _ => none

end

/-- Reads a text that holds one value and nothing else. Each level takes a character, so that no text is nested
deeper than it is long. -/
def read? (text : String) : Option Json := do
  let (value, rest) ← readValue (text.length + 1) text.toList
  if skipSpace rest = [] then return value else none

end IncludeGraph.Json
