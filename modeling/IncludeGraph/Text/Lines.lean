import IncludeGraph.Text.Ranges

/-! Lines of a text. A carriage return followed by a line feed is one break; a break that ends the text
opens no further line. -/

namespace IncludeGraph.Text

/-- The characters that end a line: line feed, vertical tab, form feed, carriage return, the file, group and
record separators, next line, and the line and paragraph separators. -/
def breakRanges : List (Nat × Nat) := [(0xA, 0xD), (0x1C, 0x1E), (0x85, 0x85), (0x2028, 0x2029)]

def isBreak (c : Char) : Bool := inRanges breakRanges c

def consFirst (c : Char) : List (List Char) → List (List Char)
  | [] => [[c]]
  | line :: lines => (c :: line) :: lines

/-- The lines of a text without their breaks. -/
def lines : List Char → List (List Char)
  | [] => []
  | '\r' :: '\n' :: rest => [] :: lines rest
  | c :: rest => if isBreak c then [] :: lines rest else consFirst c (lines rest)

/-- Writes every break that contains a carriage return as a line feed. -/
def unifyBreaks : List Char → List Char
  | [] => []
  | '\r' :: '\n' :: rest => '\n' :: unifyBreaks rest
  | c :: rest => (if c = '\r' then '\n' else c) :: unifyBreaks rest

end IncludeGraph.Text
