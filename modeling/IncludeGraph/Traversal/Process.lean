import IncludeGraph.Directive.Scan
import IncludeGraph.Traversal.State

/-! What is done with one node: its file is read, its companions are queued, and its includes are resolved to
nodes, which are queued when they are new. -/

namespace IncludeGraph.Traversal

/-- Why a traversal cannot go on. The last two say that the worklist holds what it never should. -/
inductive Failure where
  | unreadable (path : String) (fault : Fault)
  | nullByte
  | notQueued (node : Node)
  | systemQueued (name : String)
  deriving DecidableEq, Repr

def Failure.message : Failure → String
  | unreadable path fault => "Failed to read " ++ path ++ ": " ++ fault.message path
  | nullByte => Fault.nullByte.message ""
  | notQueued node => "Only queued nodes may be processed, got " ++ node.describe ++ ". This is a bug."
  | systemQueued name => "System include " ++ Text.quoted name ++ " must never be queued. This is a bug."

/-- The path of the implementation file that a suffix gives next to a header. -/
def companionPath (header suffix : String) : String :=
  Path.join (Path.dirname header) (Path.stem header ++ suffix)

/-- Queues the companions of a header that are regular files and not known yet. -/
def addCompanions (around : Surroundings) (header : String) (state : Traversal) : List String → Traversal
  | [] => state
  | suffix :: rest =>
    let path := companionPath header suffix
    if around.files.isFile path then
      let told := state.detail around.options ("Source found for " ++ header ++ ": " ++ path)
      addCompanions around header (if told.nodes.contains path then told else told.add .source path (some header)) rest
    else addCompanions around header state rest

/-- The path that a quoted include means: relative to the directory of the file it stands in. -/
def candidate (around : Surroundings) (directory name : String) : String :=
  Path.absolute around.files.currentPath (Path.join directory name)

def meet (state : Traversal) (path parent : String) : Ref × Traversal :=
  (.file path, if state.nodes.contains path then state else state.add .header path (some parent))

def meetSystem (state : Traversal) (name parent : String) : Ref × Traversal :=
  (.system name,
    if state.systems.contains name then state
    else { state with
      systems := state.systems.insert name
        { kind := .header, target := .system name, status := .created, parent := some parent } })

/-- The node that a directive includes. A quoted include is a known node at its own path; otherwise the index
decides; otherwise a quoted include is a file at its own path, whether or not there is one, and any other is a
system include. -/
def resolve (around : Surroundings) (state : Traversal) (parent directory : String) (directive : Directive) :
    Ref × Traversal :=
  let own := candidate around directory directive.name
  if directive.quoted && state.nodes.contains own then (.file own, state)
  else
    match around.index.find? directive.name with
    | some path => state.meet path parent
    | none => if directive.quoted then state.meet own parent else state.meetSystem directive.name parent

def link (around : Surroundings) (path : String) (state : Traversal) : List Finding → List Ref × Traversal
  | [] => ([], state)
  | .malformed line text :: rest =>
    link around path ((state.tell (Finding.malformedRecord path line text)).note (.malformed path line text)) rest
  | .directive directive :: rest =>
    let (child, met) := resolve around state path (Path.dirname path) directive
    let told := met.detail around.options (path ++ " -> " ++ child.text)
    let (children, linked) := link around path told rest
    (child :: children, linked)

/-- The text of a file: replacement characters stand for what is not UTF-8, and breaks are unified. -/
def readText (bytes : List UInt8) : List Char := Text.unifyBreaks (Text.Utf8.decode bytes)

/-- Reads a node's file and resolves its includes. A missing file is only noted. -/
def process (around : Surroundings) (state : Traversal) (item : Item) (node : Node) : Traversal × Option Failure :=
  match node.target with
  | .system name => (state, some (.systemQueued name))
  | .file own _ =>
    let path := item.readPath own
    let entered := state.usePath (Path.dirname path)
    match around.files.read path with
    | .error .missing =>
      let warned := entered.tell ⟨.warning, .graph, "Cannot find relative include '" ++ path ++ "'"⟩
      ((warned.note (.missing path)).setNode item { node with target := .file path false, status := .resolved }, none)
    | .error .nullByte => (entered, some .nullByte)
    | .error fault => (entered, some (.unreadable path fault))
    | .ok bytes =>
      let accompanied :=
        if node.kind = .header then addCompanions around path entered around.options.companionSuffixes else entered
      let (children, linked) := link around path accompanied (Finding.scan (readText bytes))
      (linked.setNode item { node with status := .resolved, children := some children }, none)

inductive Step where
  | done
  | failed (state : Traversal) (failure : Failure)
  | next (state : Traversal)

/-- Takes the first item from the worklist. Resolved nodes are passed over, queued ones are processed. -/
def step (around : Surroundings) (state : Traversal) : Step :=
  match state.worklist with
  | [] => .done
  | item :: rest =>
    let taken := { state with worklist := rest }
    match taken.node? item with
    | none => .next taken
    | some node =>
      match node.status with
      | .resolved => .next taken
      | .created => .failed taken (.notQueued node)
      | .queued =>
        match process around taken item node with
        | (state, none) => .next state
        | (state, some failure) => .failed state failure

end IncludeGraph.Traversal
