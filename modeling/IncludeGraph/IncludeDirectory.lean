/-! Declared include directories, and the names under which the headers below them can be included. -/

namespace IncludeGraph

/-- A directory to search, and the name that stands for it in front of the headers below it. -/
structure IncludeDirectory where
  path : String
  shorthand : String := ""
  deriving DecidableEq, Repr

namespace IncludeDirectory

structure NoDirectory where
  declaration : String
  deriving DecidableEq, Repr

def NoDirectory.message (fault : NoDirectory) : String :=
  "Include directory specification has no directory: '" ++ fault.declaration ++ "'"

/-- Cuts a text at its last separator, which belongs to neither part. -/
def cutLast (separator : Char) (text : List Char) : Option (List Char × List Char) :=
  match text.reverse.dropWhile (· ≠ separator) with
  | [] => none
  | _ :: before => some (before.reverse, (text.reverse.takeWhile (· ≠ separator)).reverse)

/-- Reads a declaration: a directory, or a directory and a shorthand with a hash sign between them. The last hash
sign counts, so that a directory may hold others. -/
def parse (declaration : String) : Except NoDirectory IncludeDirectory :=
  let (path, shorthand) := (cutLast '#' declaration.toList).getD (declaration.toList, [])
  if path = [] then .error ⟨declaration⟩ else .ok ⟨String.ofList path, String.ofList shorthand⟩

/-- The name that includes a header at a path below a directory with the given shorthand. -/
def includeName (shorthand relative : String) : String :=
  if shorthand = "" then relative else shorthand ++ "/" ++ relative

end IncludeDirectory

end IncludeGraph
