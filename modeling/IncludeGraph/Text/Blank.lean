import IncludeGraph.Text.Ranges

/-! Blank characters and the words they separate. -/

namespace IncludeGraph.Text

/-- The Unicode white space and the four information separators. -/
def blankRanges : List (Nat × Nat) :=
  [(0x9, 0xD), (0x1C, 0x20), (0x85, 0x85), (0xA0, 0xA0), (0x1680, 0x1680), (0x2000, 0x200A), (0x2028, 0x2029),
   (0x202F, 0x202F), (0x205F, 0x205F), (0x3000, 0x3000)]

def isBlank (c : Char) : Bool := inRanges blankRanges c

def headWord (text : List Char) : List Char := text.takeWhile (!isBlank ·)

/-- The first word after any blanks, empty when there is none. -/
def nextWord (text : List Char) : List Char := headWord (text.dropWhile isBlank)

end IncludeGraph.Text
