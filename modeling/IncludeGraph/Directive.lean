import IncludeGraph.Text.Blank

/-! Include directives as they stand on a line. The token after the directive word is taken as it is written:
its first and last character are delimiters, and the name lies between them. -/

namespace IncludeGraph

structure Directive where
  line : Nat
  token : String
  name : String
  quoted : Bool
  deriving DecidableEq, Repr

namespace Directive

def word : List Char := "#include".toList

/-- Is the token delimited by double quotes on both ends? Every other pair of delimiters counts as angle brackets. -/
def isQuoted (token : List Char) : Bool :=
  2 ≤ token.length && token.head? = some '"' && token.getLast? = some '"'

def nameOf (token : List Char) : List Char := (token.drop 1).dropLast

def ofToken (line : Nat) (token : List Char) : Directive :=
  ⟨line, String.ofList token, String.ofList (nameOf token), isQuoted token⟩

/-- The token of a line whose first word is the directive word, empty when no token follows. A longer word
that begins alike, or blanks before the word, make it another line. -/
def token? (line : List Char) : Option (List Char) :=
  let rest := line.drop word.length
  if word.isPrefixOf line ∧ Text.headWord rest = [] then some (Text.nextWord rest) else none

end Directive

end IncludeGraph
