import IncludeGraph.Directive
import IncludeGraph.Log
import IncludeGraph.Text.Lines

/-! The include directives of a text, line by line. No comment, condition or macro is looked at. -/

namespace IncludeGraph

/-- What a line contributes: a directive, or a directive word without a usable token. -/
inductive Finding where
  | directive (found : Directive)
  | malformed (line : Nat) (text : String)
  deriving DecidableEq, Repr

namespace Finding

/-- What one line contributes. A token that leaves no name between its delimiters is malformed. -/
def ofLine (number : Nat) (line : List Char) : Option Finding :=
  match Directive.token? line with
  | none => none
  | some token =>
    if Directive.nameOf token = [] then some (.malformed number (String.ofList line))
    else some (.directive (Directive.ofToken number token))

def ofLines (number : Nat) : List (List Char) → List Finding
  | [] => []
  | line :: rest => (ofLine number line).toList ++ ofLines (number + 1) rest

def scan (text : List Char) : List Finding := ofLines 1 (Text.lines text)

def directive? : Finding → Option Directive
  | directive found => some found
  | malformed _ _ => none

def malformed? : Finding → Option (Nat × String)
  | directive _ => none
  | malformed line text => some (line, text)

/-- The line that has it. -/
def line : Finding → Nat
  | directive found => found.line
  | malformed number _ => number

/-- Goes through findings for a reader of directives. A receiver, if there is one, is given each malformed line when its
turn comes, and keeps what it makes of it. -/
def deliver {kept : Type} (receive? : Option (kept → Nat → String → kept)) : kept → List Finding → List Directive × kept
  | state, [] => ([], state)
  | state, directive found :: rest =>
    let (directives, last) := deliver receive? state rest
    (found :: directives, last)
  | state, malformed number text :: rest =>
    match receive? with
    | some receive => deliver receive? (receive state number text) rest
    | none => deliver receive? state rest

/-- What is told about a malformed line of the given file. -/
def malformedRecord (path : String) (line : Nat) (text : String) : Log.Record :=
  ⟨.warning, .scanner, "Malformed #include on line " ++ toString line ++ " of " ++ path ++ ": '" ++ text ++ "'"⟩

def warning? (path : String) (finding : Finding) : Option Log.Record :=
  finding.malformed?.map fun (line, text) => malformedRecord path line text

end Finding

end IncludeGraph
