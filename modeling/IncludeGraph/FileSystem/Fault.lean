import IncludeGraph.Text.Quoted

/-! Why the system refuses a path. -/

namespace IncludeGraph

/-- A refusal: the errors of the system, and a path that no system call can carry. -/
inductive Fault where
  | missing
  | noDevice
  | denied
  | notDirectory
  | isDirectory
  | nameTooLong
  | linkLoop
  | nullByte
  deriving DecidableEq, Repr

namespace Fault

/-- The system's number and text of an error; a null byte never reaches the system. -/
def system? : Fault → Option (Nat × String)
  | missing => some (2, "No such file or directory")
  | noDevice => some (6, "No such device or address")
  | denied => some (13, "Permission denied")
  | notDirectory => some (20, "Not a directory")
  | isDirectory => some (21, "Is a directory")
  | nameTooLong => some (36, "File name too long")
  | linkLoop => some (40, "Too many levels of symbolic links")
  | nullByte => none

def message (fault : Fault) (path : String) : String :=
  match fault.system? with
  | some (number, text) => "[Errno " ++ toString number ++ "] " ++ text ++ ": " ++ Text.quoted path
  | none => "embedded null byte"

end Fault

end IncludeGraph
