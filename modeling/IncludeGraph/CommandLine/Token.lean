import IncludeGraph.CommandLine.Switch
import IncludeGraph.Text.Digits

/-! How one argument is taken apart. Options may be shortened and carry their value in the same argument. -/

namespace IncludeGraph.CommandLine

/-- An option as an argument uses it, and the text attached to it: what follows a letter, or an equals sign. Only a
letter with one dash can be followed by further letters. -/
structure Usage where
  switch : Switch
  isLetter : Bool
  attached : Option (List Char)
  deriving DecidableEq, Repr

/-- A dash and a number, with at most one point and digits behind it. A final line feed does not matter. -/
def isNegativeNumber (argument : List Char) : Bool :=
  match argument with
  | '-' :: rest =>
    let number := if rest.getLast? = some '\n' then rest.dropLast else rest
    Text.isDigits number ||
      match number.dropWhile (· ≠ '.') with
      | [] => false
      | _ :: decimals =>
        let whole := number.takeWhile (· ≠ '.')
        (whole = [] || Text.isDigits whole) && Text.isDigits decimals
  | _ => false

inductive Token where
  | plain (text : String)
  | separator
  | usage (usage : Usage)
  | unknown (text : String)
  deriving DecidableEq, Repr

structure Ambiguity where
  argument : String
  candidates : List String
  deriving DecidableEq, Repr

/-- The text before and behind the first equals sign. -/
def cutAssignment (argument : List Char) : List Char × Option (List Char) :=
  match argument.dropWhile (· ≠ '=') with
  | [] => (argument, none)
  | _ :: value => (argument.takeWhile (· ≠ '='), some value)

def spelled? (spelling : List Char) (attached : Option (List Char)) : Option Usage :=
  (Switch.spellings.lookup (String.ofList spelling)).map fun switch =>
    ⟨switch, !List.isPrefixOf ['-', '-'] spelling, attached⟩

/-- The options whose spelling begins like the argument: any start of a long spelling, or a letter with
something behind it. -/
def candidates (argument : List Char) : List (String × Usage) :=
  if List.isPrefixOf ['-', '-'] argument then
    let (start, attached) := cutAssignment argument
    (Switch.spellings.filter fun spelling => start.isPrefixOf spelling.1.toList).map fun (spelling, switch) =>
      (spelling, ⟨switch, false, attached⟩)
  else
    (Switch.spellings.filter fun spelling => spelling.1.toList = argument.take 2).map fun (spelling, switch) =>
      (spelling, ⟨switch, true, some (argument.drop 2)⟩)

/-- Takes an argument in front of the separator for what it is. A dash alone, a negative number and a text with
a space are never options unless they are spelled like one. -/
def Token.ofArgument (argument : String) : Except Ambiguity Token :=
  let characters := argument.toList
  if characters.head? ≠ some '-' ∨ characters = ['-'] then .ok (.plain argument)
  else
    let (spelling, attached) := cutAssignment characters
    match (spelled? characters none).or (if attached.isNone then none else spelled? spelling attached) with
    | some found => .ok (.usage found)
    | none =>
      match candidates characters with
      | [] =>
        if isNegativeNumber characters || characters.contains ' ' then .ok (.plain argument)
        else .ok (.unknown argument)
      | [(_, found)] => .ok (.usage found)
      | several => .error ⟨argument, several.map (·.1)⟩

/-- Takes arguments apart. Behind the first separator everything is plain. -/
def tokens : List String → Except Ambiguity (List Token)
  | [] => .ok []
  | argument :: rest =>
    if argument = "--" then .ok (.separator :: rest.map .plain)
    else
      match Token.ofArgument argument with
      | .error ambiguity => .error ambiguity
      | .ok token =>
        match tokens rest with
        | .error ambiguity => .error ambiguity
        | .ok later => .ok (token :: later)

end IncludeGraph.CommandLine
