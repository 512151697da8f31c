import IncludeGraph.Network
import IncludeGraph.Text.LowerCase

/-! Networks in the DOT language. A word is quoted unless the language reads it back as it is; words of the
language itself are quoted where they would be misread.

NetworkX leaves this format to pydot. Of NetworkX this embodies that a graph without loops is strict, that all vertices
stand in front of all links, and that values are turned into text first, so that truth reads as `True` and `False`. Of
pydot it embodies that there is one statement on each line, and that identifiers and values are quoted where the
language asks for it: a name of letters, digits and underscores, a numeral, and a string in quotes or angle brackets
stand as they are unless they are keywords. Whatever else is quoted has its quotes escaped and its backslashes kept. -/

namespace IncludeGraph.Network.Dot

def keywords : List String := ["graph", "subgraph", "digraph", "node", "edge", "strict"]

/-- The words that need no quotes at the start of a statement about a vertex. -/
def harmlessKeywords : List String := ["graph", "node", "edge"]

/-- A character inside quotes: quotes and breaks are escaped, a backslash stands for itself. -/
def escape (c : Char) : List Char :=
  if c = '"' then ['\\', '"']
  else if c = '\n' then ['\\', 'n']
  else if c = '\r' then ['\\', 'r']
  else [c]

def quote (word : String) : String := "\"" ++ String.ofList (word.toList.flatMap escape) ++ "\""

/-- A word without the line feed that may end it: what holds of a word holds of it with a line feed behind. -/
def trim (word : List Char) : List Char := if word.getLast? = some '\n' then word.dropLast else word

/-- Is the word enclosed in quotes or angle brackets already? The language reads such a word as it is. -/
def isEnclosed (word : List Char) : Bool :=
  2 ≤ (trim word).length
    && [('"', '"'), ('<', '>')].any fun ends => word.head? = some ends.1 && (trim word).getLast? = some ends.2

def isNumeral (word : List Char) : Bool :=
  ((trim word).filter (· ≠ '.')).any Char.isDigit && ((trim word).filter (· ≠ '.')).all Char.isDigit
    && (trim word).count '.' ≤ 1

def isPlainWord (word : List Char) : Bool := word.all Char.isAlphanum && word.head?.any Char.isAlpha

def isIdentifier (word : List Char) : Bool :=
  (trim word).all (fun c => c.isAlphanum || c = '_' || c = '"') && word.head?.any fun c => c.isAlpha || c = '_'

def isSafe (word : List Char) : Bool := isPlainWord word || isNumeral word || isEnclosed word

/-- The value of an attribute. An underscore is enough to have it quoted, other than a name. -/
def attributeValue (word : String) : String :=
  if !keywords.contains (Text.lower word) && isSafe word.toList then word else quote word

def name (word : String) : String :=
  if !keywords.contains (Text.lower word) && (isSafe word.toList || isIdentifier word.toList) then word
  else quote word

/-- The name of a vertex in a link. Quotes at both ends are not looked at more closely, be they one and the same. -/
def linkName (word : String) : String :=
  if word.toList.head? = some '"' && word.toList.getLast? = some '"' then word else name word

/-- The name of a vertex at the start of its statement. -/
def statementName (word : String) : String :=
  if harmlessKeywords.contains (Text.lower word) then word else name word

def truth (holds : Bool) : String := if holds then "True" else "False"

def node (entry : String × Vertex) : String :=
  statementName entry.1 ++ " [label=" ++ attributeValue entry.2.label ++ ", kind=" ++ entry.2.kind.name
    ++ ", exists=" ++ truth entry.2.isPresent ++ ", system=" ++ truth entry.2.isSystem ++ "];\n"

def edge (link : String × String) : String := linkName link.1 ++ " -> " ++ linkName link.2 ++ ";\n"

/-- The text of a network. It is strict unless it has a loop. -/
def document (network : Network) : String :=
  (if network.hasLoop then "digraph \x7b\n" else "strict digraph \x7b\n")
    ++ String.join (network.vertices.entries.map node) ++ String.join (network.edges.map edge) ++ "\x7d\n"

end IncludeGraph.Network.Dot
