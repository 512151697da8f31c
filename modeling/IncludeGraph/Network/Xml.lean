/-! Text and attribute values in XML. -/

namespace IncludeGraph.Network.Xml

def escapeText (c : Char) : List Char :=
  if c = '&' then "&amp;".toList
  else if c = '<' then "&lt;".toList
  else if c = '>' then "&gt;".toList
  else [c]

/-- A character of an attribute value. Breaks and tabs are kept by their numbers. -/
def escapeAttribute (c : Char) : List Char :=
  if c = '"' then "&quot;".toList
  else if c = '\r' then "&#13;".toList
  else if c = '\n' then "&#10;".toList
  else if c = '\t' then "&#09;".toList
  else escapeText c

def text (content : String) : String := String.ofList (content.toList.flatMap escapeText)

def value (content : String) : String := "\"" ++ String.ofList (content.toList.flatMap escapeAttribute) ++ "\""

def declaration : String := "<?xml version='1.0' encoding='utf-8'?>\n"

end IncludeGraph.Network.Xml
