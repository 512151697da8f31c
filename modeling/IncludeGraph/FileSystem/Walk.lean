import IncludeGraph.FileSystem.Access

/-! The regular files below a directory. Links are passed over, whatever they lead to. -/

namespace IncludeGraph.FileSystem

/-- A file below a directory: its path from there, and its whole path. -/
structure Found where
  relative : String
  path : String
  deriving DecidableEq, Repr

/-- The files of a walk up to its end or to the first directory that could not be listed. -/
structure Survey where
  files : List Found := []
  stopped : Option (String × Fault) := none

/-- What follows a directory that could not be listed is not walked. -/
def Survey.andThen (first second : Survey) : Survey :=
  match first.stopped with
  | some _ => first
  | none => ⟨first.files ++ second.files, second.stopped⟩

/-- Walks a directory: its files in ascending order, then its subdirectories in ascending order. The path of a
subdirectory is longer than that of its directory, so that a walk deeper than the limit of paths would be
refused in any case. -/
def walkFrom (files : FileSystem) : Nat → Found → Survey
  | 0, directory => { stopped := some (directory.path, .nameTooLong) }
  | depth + 1, directory =>
    match files.list directory.path with
    | .error fault => { stopped := some (directory.path, fault) }
    | .ok entries =>
      let below (name : String) : Found := ⟨Path.join directory.relative name, Path.join directory.path name⟩
      let plain := entries.filterMap fun (name, entry) =>
        match entry with
        | .directory _ | .link _ => none
        | _ => if files.isFile (below name).path then some (below name) else none
      let nested := entries.map fun (name, entry) =>
        match entry with
        | .directory _ => files.walkFrom depth (below name)
        | _ => {}
      nested.foldl Survey.andThen { files := plain }

def walk (files : FileSystem) (path : String) : Survey := files.walkFrom pathLimit ⟨"", path⟩

end IncludeGraph.FileSystem
