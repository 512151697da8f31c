import IncludeGraph.FileSystem.Resolve
import IncludeGraph.Text.Sorted

/-! What a program can ask of a file system by path. -/

namespace IncludeGraph.FileSystem

def read (files : FileSystem) (path : String) : Except Fault (List UInt8) :=
  match files.locate path with
  | .error fault => .error fault
  | .ok (.free _ _ _) => .error .missing
  | .ok (.taken _ (.file content)) => .ok content
  | .ok (.taken _ .locked) => .error .denied
  | .ok (.taken _ .socket) => .error .noDevice
  | .ok (.taken _ (.directory _)) => .error .isDirectory
  | .ok (.taken _ (.link _)) => .error .linkLoop

/-- Does the path lead to a regular file? Any refusal means no. -/
def isFile (files : FileSystem) (path : String) : Bool :=
  match files.locate path with
  | .ok (.taken _ (.file _)) => true
  | .ok (.taken _ .locked) => true
  | _ => false

def isDirectory (files : FileSystem) (path : String) : Bool :=
  match files.locate path with
  | .ok (.taken _ (.directory _)) => true
  | _ => false

/-- The entries of a directory by name, in ascending order. -/
def list (files : FileSystem) (path : String) : Except Fault (List (String × Entry)) :=
  match files.locate path with
  | .error fault => .error fault
  | .ok (.taken place (.directory true)) =>
    .ok ((Text.ascending (files.namesBelow place)).filterMap fun name =>
      (files.entry? (place ++ [name])).map (name, ·))
  | .ok (.taken _ (.directory false)) => .error .denied
  | .ok (.taken _ _) => .error .notDirectory
  | .ok (.free _ _ _) => .error .missing

/-- Makes a text the content of the file at a path; a free name becomes a file, unless slashes follow it. -/
def write (files : FileSystem) (path text : String) : Except Fault FileSystem :=
  let store place := { files with entries := files.entries.insert place (.file (Text.Utf8.encode text.toList)) }
  match files.locate path with
  | .error fault => .error fault
  | .ok (.free directory name false) => .ok (store (directory ++ [name]))
  | .ok (.free _ _ true) => .error .isDirectory
  | .ok (.taken place (.file _)) => .ok (store place)
  | .ok (.taken _ .locked) => .error .denied
  | .ok (.taken _ .socket) => .error .noDevice
  | .ok (.taken _ (.directory _)) => .error .isDirectory
  | .ok (.taken _ (.link _)) => .error .linkLoop

end IncludeGraph.FileSystem
