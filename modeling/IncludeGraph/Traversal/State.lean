import IncludeGraph.HeaderIndex
import IncludeGraph.Node

/-! The state of a traversal: the nodes met so far, and the worklist of those that wait to be read. The last
node that was queued is read first. -/

namespace IncludeGraph

structure Options where
  headerSuffixes : List String := [".h"]
  companionSuffixes : List String := [".cpp"]
  /-- Tell about every include and every indexed header. -/
  debug : Bool := false
  deriving DecidableEq, Repr

/-- What a traversal looks at and does not change. -/
structure Surroundings where
  files : FileSystem
  index : HeaderIndex
  options : Options

/-- A node on the worklist: the node in the table under a path, or a detached one by its number. -/
inductive Item where
  | listed (path : String)
  | detached (number : Nat)
  deriving DecidableEq, Repr

/-- Where the file of a node is read: a node of the table under its path there, a detached one at its own. -/
def Item.readPath (own : String) : Item → String
  | .listed path => path
  | .detached _ => own

/-- Nodes by path and system includes by spelling, in the order in which they were met. A detached node is on
the worklist but not, or no longer, in the table. -/
structure Traversal where
  nodes : Table String Node := {}
  systems : Table String Node := {}
  includePaths : List String := []
  diagnostics : List Diagnostic := []
  worklist : List Item := []
  detached : List Node := []
  log : List Log.Record := []
  deriving DecidableEq, Repr

namespace Traversal

/-- The state before the first node: only the indexed directories are in use. -/
def initial (index : HeaderIndex) : Traversal := { includePaths := index.directories }

def node? (state : Traversal) : Item → Option Node
  | .listed path => state.nodes.find? path
  | .detached number => state.detached[number]?

def setNode (state : Traversal) (item : Item) (node : Node) : Traversal :=
  match item with
  | .listed path => { state with nodes := state.nodes.insert path node }
  | .detached number => { state with detached := state.detached.set number node }

def resolve? (state : Traversal) : Ref → Option Node
  | .file path => state.nodes.find? path
  | .system name => state.systems.find? name

def tell (state : Traversal) (record : Log.Record) : Traversal := { state with log := state.log ++ [record] }

def detail (state : Traversal) (options : Options) (message : String) : Traversal :=
  if options.debug then state.tell ⟨.debug, .graph, message⟩ else state

def note (state : Traversal) (diagnostic : Diagnostic) : Traversal :=
  { state with diagnostics := state.diagnostics ++ [diagnostic] }

def usePath (state : Traversal) (path : String) : Traversal :=
  if state.includePaths.contains path then state else { state with includePaths := state.includePaths ++ [path] }

@[simp] theorem usePath_nodes (state : Traversal) (path : String) : (state.usePath path).nodes = state.nodes := by
  unfold usePath
  split <;> rfl

@[simp] theorem usePath_systems (state : Traversal) (path : String) : (state.usePath path).systems = state.systems := by
  unfold usePath
  split <;> rfl

@[simp] theorem usePath_worklist (state : Traversal) (path : String) :
    (state.usePath path).worklist = state.worklist := by
  unfold usePath
  split <;> rfl

@[simp] theorem usePath_diagnostics (state : Traversal) (path : String) :
    (state.usePath path).diagnostics = state.diagnostics := by
  unfold usePath
  split <;> rfl

theorem mem_usePath {state : Traversal} {path other : String} :
    other ∈ (state.usePath path).includePaths ↔ other ∈ state.includePaths ∨ other = path := by
  unfold usePath
  split
  next used =>
    have known : path ∈ state.includePaths := List.contains_iff_mem.mp used
    constructor
    · exact Or.inl
    · rintro (old | rfl)
      · exact old
      · exact known
  · simp

/-- Takes the node under a path out of the table. Where it waits on the worklist it waits detached. -/
def detach (state : Traversal) (path : String) : Traversal :=
  match state.nodes.find? path with
  | none => state
  | some node =>
    { state with
      worklist := state.worklist.map fun item => if item = .listed path then .detached state.detached.length else item
      detached := state.detached ++ [node] }

/-- Puts a new node under a path and queues it. -/
def add (state : Traversal) (kind : Kind) (path : String) (parent : Option String) : Traversal :=
  let freed := state.detach path
  { freed with
    nodes := freed.nodes.insert path { kind, target := .file path true, status := .queued, parent }
    worklist := .listed path :: freed.worklist }

def addDetached (state : Traversal) (node : Node) : Traversal :=
  { state with
    worklist := .detached state.detached.length :: state.worklist
    detached := state.detached ++ [node] }

end Traversal

end IncludeGraph
