import IncludeGraph.FileSystem.Basic
import IncludeGraph.FileSystem.Fault
import IncludeGraph.Path
import IncludeGraph.Text.Utf8

/-! Resolution of paths, part by part. Without links it is a walk along the parts; each link on the way
starts the walk anew with the parts of its target, for a limited number of times. -/

namespace IncludeGraph.FileSystem

def pathLimit : Nat := 4096

def nameLimit : Nat := 255

def linkLimit : Nat := 40

/-- Where a path leads: to an entry, or to a free name in a directory. Slashes behind a free name demand that it
name a directory. -/
inductive Place where
  | taken (place : List String) (entry : Entry)
  | free (directory : List String) (name : String) (slashed : Bool)
  deriving DecidableEq, Repr

/-- How a walk along the parts of a path ends. -/
inductive Arrival where
  | at (place : Place)
  | refused (fault : Fault)
  /-- A link was met: where to walk on, and along which parts. -/
  | redirected (here : List String) (parts : List String)

/-- The parts of a path. An empty part, such as a final slash leaves, stays where it is but demands a directory. -/
def parts (path : String) : List String := (Path.split path.toList).map String.ofList

def isAbsolute (path : String) : Bool := path.toList.head? = some '/'

/-- Walks along the parts from a place up to the end or to the first link. -/
def advance (files : FileSystem) (here : List String) : List String → Arrival
  | [] =>
    match files.entry? here with
    | some entry => .at (.taken here entry)
    | none => .refused .missing
  | part :: rest =>
    match files.entry? here with
    | none => .refused .missing
    | some (.directory _) =>
      if part = "" ∨ part = "." then files.advance here rest
      else if part = ".." then files.advance here.dropLast rest
      else if nameLimit < Text.Utf8.byteLength part then .refused .nameTooLong
      else
        match files.entry? (here ++ [part]) with
        | none => if rest.all (· = "") then .at (.free here part !rest.isEmpty) else .refused .missing
        | some (.link target) => .redirected (if isAbsolute target then [] else here) (parts target ++ rest)
        | some _ => files.advance (here ++ [part]) rest
    | some _ => .refused .notDirectory

/-- Walks along the parts, following at most the given number of links. -/
def follow (files : FileSystem) : Nat → List String → List String → Except Fault Place
  | 0, here, parts =>
    match files.advance here parts with
    | .at place => .ok place
    | .refused fault => .error fault
    | .redirected _ _ => .error .linkLoop
  | links + 1, here, parts =>
    match files.advance here parts with
    | .at place => .ok place
    | .refused fault => .error fault
    | .redirected here parts => files.follow links here parts

@[irreducible] def locate (files : FileSystem) (path : String) : Except Fault Place :=
  if path.toList.contains '\x00' then .error .nullByte
  else if path = "" then .error .missing
  else if pathLimit ≤ Text.Utf8.byteLength path then .error .nameTooLong
  else files.follow linkLimit (if isAbsolute path then [] else files.workingDirectory) (parts path)

variable {files : FileSystem} {path : String}

/-- A path that leads anywhere is short. -/
theorem length_lt_of_located {place : Place}
    (located : files.locate path = .ok place) : path.toList.length < pathLimit := by
  apply Nat.lt_of_le_of_lt (Text.Utf8.length_le_byteLength path)
  apply Nat.lt_of_not_le
  intro long
  simp only [locate, long, if_true] at located
  repeat' split at located
  all_goals cases located

theorem ne_nullByte_of_advance {here parts : List String} {fault : Fault}
    (refused : files.advance here parts = .refused fault) : fault ≠ .nullByte := by
  rintro rfl
  fun_induction advance files here parts <;> simp_all

theorem follow_ne_nullByte (files : FileSystem) (links : Nat) (here parts : List String) :
    files.follow links here parts ≠ .error .nullByte := by
  induction links generalizing here parts with
  | zero =>
    unfold follow
    split
    · simp
    next refused => simpa using ne_nullByte_of_advance refused
    · simp
  | succ links ih =>
    unfold follow
    split
    · simp
    next refused => simpa using ne_nullByte_of_advance refused
    · exact ih _ _

/-- A null byte is refused before anything is walked. -/
theorem locate_nullByte_iff : files.locate path = .error .nullByte ↔ '\x00' ∈ path.toList := by
  unfold locate
  split
  next null => simpa using null
  next free =>
    have free : '\x00' ∉ path.toList := by simpa using free
    simp only [free, iff_false]
    split
    · simp
    split
    · simp
    · exact follow_ne_nullByte _ _ _ _

end IncludeGraph.FileSystem
