import IncludeGraph.Graph
import IncludeGraph.Traversal.Run

/-! How a graph comes about: the declared directories are indexed, and the root is traversed. -/

namespace IncludeGraph

inductive BuildError where
  | index (refusal : HeaderIndex.Refusal)
  | traversal (failure : Traversal.Failure)
  deriving DecidableEq, Repr

def BuildError.message : BuildError → String
  | index refusal => refusal.message
  | traversal failure => failure.message

namespace Graph

def ofTraversal (root : String) (state : Traversal) : Graph :=
  ⟨root, state.nodes, state.systems, state.includePaths, state.diagnostics⟩

/-- Told about each indexed header if details are asked for. -/
def indexRecords (options : Options) (index : HeaderIndex) : List Log.Record :=
  if options.debug then
    index.items.map fun (name, path) => ⟨.debug, .graph, "#include \"" ++ name ++ "\" => " ++ path⟩
  else []

def builtRecord (graph : Graph) : Log.Record :=
  ⟨.info, .graph, "Built include graph for " ++ graph.root ++ ": " ++ toString graph.headers.length ++ " headers, "
    ++ toString graph.sources.length ++ " sources, " ++ toString graph.systems.size ++ " system includes, "
    ++ toString graph.diagnostics.length ++ " warnings"⟩

/-- The graph of a root file with declared directories, and what is told meanwhile. -/
def build (files : FileSystem) (root : String) (directories : List IncludeDirectory) (options : Options) :
    List Log.Record × Except BuildError Graph :=
  match HeaderIndex.build files options.headerSuffixes directories with
  | (told, .error refusal) => (told, .error (.index refusal))
  | (told, .ok index) =>
    let path := Path.absolute files.currentPath root
    let (state, failure?) := Traversal.run ⟨files, index, options⟩ (.initial index) path
    let met := told ++ indexRecords options index ++ state.log
    match failure? with
    | some failure => (met, .error (.traversal failure))
    | none =>
      let graph := ofTraversal path state
      (met ++ [graph.builtRecord], .ok graph)

end Graph

end IncludeGraph
