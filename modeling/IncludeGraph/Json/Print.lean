import IncludeGraph.Json
import IncludeGraph.Text.Hex

/-! JSON text in ASCII, laid out with two spaces for each level. -/

namespace IncludeGraph.Json

/-- A character inside a string. What is not printable ASCII is written as one or two UTF-16 units. -/
def escape (c : Char) : List Char :=
  if c = '"' then ['\\', '"']
  else if c = '\\' then ['\\', '\\']
  else if c = '\n' then ['\\', 'n']
  else if c = '\r' then ['\\', 'r']
  else if c = '\t' then ['\\', 't']
  else if c = '\x0c' then ['\\', 'f']
  else if c = '\x08' then ['\\', 'b']
  else if 0x20 ≤ c.toNat && c.toNat < 0x7F then [c]
  else if c.toNat < 0x10000 then '\\' :: 'u' :: Text.hex 4 c.toNat
  else
    '\\' :: 'u' :: Text.hex 4 (0xD800 + (c.toNat - 0x10000) / 0x400)
      ++ '\\' :: 'u' :: Text.hex 4 (0xDC00 + (c.toNat - 0x10000) % 0x400)

def printString (text : String) : List Char := '"' :: text.toList.flatMap escape ++ ['"']

def newline (level : Nat) : List Char := '\n' :: List.replicate (2 * level) ' '

mutual

/-- A value at the given level. Empty arrays and objects take no line of their own. -/
def printAt (level : Nat) : Json → List Char
  | .null => "null".toList
  | .bool true => "true".toList
  | .bool false => "false".toList
  | .number value => Nat.toDigits 10 value
  | .string value => printString value
  | .array [] => ['[', ']']
  | .array (item :: rest) =>
    '[' :: newline (level + 1) ++ printAt (level + 1) item ++ printItems (level + 1) rest ++ newline level ++ [']']
  | .object [] => ['\x7b', '\x7d']
  | .object ((name, value) :: rest) =>
    '\x7b' :: newline (level + 1) ++ printString name ++ ':' :: ' ' :: printAt (level + 1) value
      ++ printMembers (level + 1) rest ++ newline level ++ ['\x7d']

def printItems (level : Nat) : List Json → List Char
  | [] => []
  | item :: rest => ',' :: newline level ++ printAt level item ++ printItems level rest

def printMembers (level : Nat) : List (String × Json) → List Char
  | [] => []
  | (name, value) :: rest =>
    ',' :: newline level ++ printString name ++ ':' :: ' ' :: printAt level value ++ printMembers level rest

end

def print (value : Json) : String := String.ofList (printAt 0 value)

end IncludeGraph.Json
