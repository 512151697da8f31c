import IncludeGraph.Text.Quoted

/-! The nodes of an include graph. A node stands for a file at a path, or for a system include of which only
the spelling is known. -/

namespace IncludeGraph

/-- Sources are the root and the companions of headers; what is included is a header. -/
inductive Kind where
  | source
  | header
  deriving DecidableEq, Repr

def Kind.name : Kind → String
  | source => "source"
  | header => "header"

/-- A node waits to be read once it is queued, and has been read once it is resolved. -/
inductive Status where
  | created
  | queued
  | resolved
  deriving DecidableEq, Repr

def Status.name : Status → String
  | created => "not_yet_resolved"
  | queued => "queued"
  | resolved => "resolved"

/-- What a node stands for. A file is taken to be present until it turns out to be missing. -/
inductive Target where
  | file (path : String) (present : Bool)
  | system (name : String)
  deriving DecidableEq, Repr

/-- Refers to a node: a file by its path, a system include by its spelling. -/
inductive Ref where
  | file (path : String)
  | system (name : String)
  deriving DecidableEq, Repr

/-- The path or the spelling alone. -/
def Ref.text : Ref → String
  | file path => path
  | system name => name

/-- A node, the path of the file that first introduced it, and, once it has been read, what it includes. -/
structure Node where
  kind : Kind
  target : Target
  status : Status
  parent : Option String := none
  children : Option (List Ref) := none
  deriving DecidableEq, Repr

namespace Node

def path (node : Node) : String :=
  match node.target with
  | .file path _ => path
  | .system name => name

def isSystem (node : Node) : Bool :=
  match node.target with
  | .file _ _ => false
  | .system _ => true

/-- Only files that turned out to be missing are not present. -/
def isPresent (node : Node) : Bool :=
  match node.target with
  | .file _ present => present
  | .system _ => true

def describe (node : Node) : String :=
  "Node(" ++ node.kind.name ++ ", " ++ Text.quoted node.path ++ ", " ++ node.status.name ++ ")"

end Node

/-- A problem that does not stop the work. -/
inductive Diagnostic where
  | missing (path : String)
  | malformed (path : String) (line : Nat) (text : String)
  deriving DecidableEq, Repr

namespace Diagnostic

def kindName : Diagnostic → String
  | missing _ => "missing_include"
  | malformed _ _ _ => "malformed_include"

def file : Diagnostic → String
  | missing path => path
  | malformed path _ _ => path

/-- The line that has the problem, if it lies in one line. -/
def line? : Diagnostic → Option Nat
  | missing _ => none
  | malformed _ line _ => some line

def message : Diagnostic → String
  | missing _ => "include target not found"
  | malformed _ _ text => "malformed #include: '" ++ text ++ "'"

/-- The problem in words with its place in front. -/
def text (diagnostic : Diagnostic) : String :=
  match diagnostic.line? with
  | some line => diagnostic.file ++ ":" ++ toString line ++ ": " ++ diagnostic.message
  | none => diagnostic.file ++ ": " ++ diagnostic.message

end Diagnostic

end IncludeGraph
