import IncludeGraph.Text.Hex
import IncludeGraph.Text.Printable

/-! The quoted form of a text in messages: single quotes, or double quotes when only that spares an escape. -/

namespace IncludeGraph.Text.Quoted

/-- Double quotes serve a text that has single quotes and no double ones. -/
def delimiter (text : List Char) : Char :=
  if text.contains '\x27' && !text.contains '"' then '"' else '\x27'

/-- A character between the given quotes: line feed, carriage return and tab by their letters, other characters
that are not printable by their number in the shortest of three widths. -/
def escape (quote c : Char) : List Char :=
  if c = quote || c = '\\' then ['\\', c]
  else if c = '\n' then ['\\', 'n']
  else if c = '\r' then ['\\', 'r']
  else if c = '\t' then ['\\', 't']
  else if isPrintable c then [c]
  else if c.toNat < 0x100 then '\\' :: 'x' :: hex 2 c.toNat
  else if c.toNat < 0x10000 then '\\' :: 'u' :: hex 4 c.toNat
  else '\\' :: 'U' :: hex 8 c.toNat

def encode (text : List Char) : List Char :=
  let quote := delimiter text
  quote :: text.flatMap (escape quote) ++ [quote]

end Quoted

def quoted (text : String) : String := String.ofList (Quoted.encode text.toList)

end IncludeGraph.Text
