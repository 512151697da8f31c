/-! Paths as text. Nothing here looks at a file system: paths are joined, cut and collapsed by their
slashes and dots alone. -/

namespace IncludeGraph.Path

def split : List Char → List (List Char)
  | [] => [[]]
  | c :: rest =>
    if c = '/' then [] :: split rest
    else match split rest with
      | [] => [[c]]
      | part :: parts => (c :: part) :: parts

/-- Joins two paths: an absolute second path stands alone. -/
def join (base path : String) : String :=
  if path.toList.head? = some '/' then path
  else if base.toList.getLast?.all (· = '/') then base ++ path
  else base ++ "/" ++ path

def basename (path : String) : String :=
  String.ofList (path.toList.reverse.takeWhile (· ≠ '/')).reverse

/-- The part before the last slash without the slashes that end it, unless it consists of slashes. -/
def dirname (path : String) : String :=
  let back := path.toList.reverse.dropWhile (· ≠ '/')
  if back.all (· = '/') then String.ofList back.reverse
  else String.ofList (back.dropWhile (· = '/')).reverse

/-- A file name cut before its last dot. Dots at the start of a name open no extension. -/
def cutExtension (name : List Char) : List Char × List Char :=
  let back := name.reverse
  match back.dropWhile (· ≠ '.') with
  | [] => (name, [])
  | _ :: stem =>
    if stem.all (· = '.') then (name, []) else (stem.reverse, '.' :: (back.takeWhile (· ≠ '.')).reverse)

def stem (path : String) : String := String.ofList (cutExtension (basename path).toList).1

def extension (path : String) : String := String.ofList (cutExtension (basename path).toList).2

/-- Adds one part to a reversed list of names: empty parts and single dots count for nothing, and two dots
take back the name before, if there is one. -/
def pushPart (names : List (List Char)) (part : List Char) : List (List Char) :=
  if part = [] ∨ part = ['.'] then names
  else if part = ['.', '.'] then names.tail
  else part :: names

def names (path : List Char) : List (List Char) := ((split path).foldl pushPart []).reverse

/-- The slashes that a collapsed absolute path begins with: exactly two are kept, any other number is one. -/
def rootSlashes : List Char → List Char
  | '/' :: '/' :: '/' :: _ => ['/']
  | '/' :: '/' :: _ => ['/', '/']
  | _ => ['/']

def collapse (path : String) : String :=
  String.ofList (rootSlashes path.toList ++ List.intercalate ['/'] (names path.toList))

/-- The collapsed absolute path that a path means in a working directory. -/
def absolute (directory path : String) : String := collapse (join directory path)

end IncludeGraph.Path
