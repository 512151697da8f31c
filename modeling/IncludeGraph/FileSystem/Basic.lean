import IncludeGraph.Path
import IncludeGraph.Table

/-! A file system as a value. Every entry stands under its place, the names that lead to it from the root
without links. -/

namespace IncludeGraph

inductive Entry where
  | file (content : List UInt8)
  /-- A regular file that may be neither read nor written. -/
  | locked
  | socket
  | link (target : String)
  /-- A directory; one that is not listable can still be passed through. -/
  | directory (listable : Bool)
  deriving DecidableEq, Repr

/-- The entries by place, and the place where relative paths begin. -/
structure FileSystem where
  workingDirectory : List String
  entries : Table (List String) Entry
  deriving DecidableEq, Repr

namespace FileSystem

/-- The entry at a place. There is always a root directory. -/
def entry? (files : FileSystem) (place : List String) : Option Entry :=
  match files.entries.find? place with
  | some entry => some entry
  | none => if place = [] then some (.directory true) else none

def erase (files : FileSystem) (place : List String) : FileSystem :=
  { files with entries := ⟨files.entries.entries.filter fun entry => !place.isPrefixOf entry.1⟩ }

def ensureDirectory (files : FileSystem) (place : List String) : FileSystem :=
  match files.entry? place with
  | some (.directory _) => files
  | _ => { files.erase place with entries := (files.erase place).entries.insert place (.directory true) }

def ensureParents (files : FileSystem) (place : List String) : FileSystem :=
  ((List.range place.length).map place.take).foldl ensureDirectory files

def ensureWorkingDirectory (files : FileSystem) : FileSystem :=
  (files.ensureParents files.workingDirectory).ensureDirectory files.workingDirectory

/-- Frees a place; directories lead to it all the same. -/
def free (files : FileSystem) (place : List String) : FileSystem := (files.erase place).ensureParents place

def put (files : FileSystem) (place : List String) (entry : Entry) : FileSystem :=
  { files.free place with entries := (files.free place).entries.insert place entry }

/-- Puts entries at places, or frees the places, one after the other. The working directory outlasts it all. -/
def change (files : FileSystem) (changes : List (List String × Option Entry)) : FileSystem :=
  (changes.foldl (fun files (place, entry?) =>
    match entry? with
    | some entry => files.put place entry
    | none => files.free place) files).ensureWorkingDirectory

def empty (workingDirectory : List String) : FileSystem := (FileSystem.mk workingDirectory {}).ensureWorkingDirectory

def currentPath (files : FileSystem) : String := "/" ++ "/".intercalate files.workingDirectory

/-- The place that a path names by its text alone. -/
def placeOf (files : FileSystem) (path : String) : List String :=
  (Path.names (Path.join files.currentPath path).toList).map String.ofList

/-- Can a directory list an entry of this name? A name is not empty and holds no slash; one dot and two dots stand for
the directory itself and the one above it and are never listed. -/
def isName (name : String) : Bool := name ≠ "" && name ≠ "." && name ≠ ".." && !name.toList.contains '/'

/-- The names right below a place, as often as entries bear them. -/
def namesBelow (files : FileSystem) (place : List String) : List String :=
  files.entries.keys.filterMap fun key =>
    if key.dropLast = place then key.getLast?.filter isName else none

end FileSystem

end IncludeGraph
