import IncludeGraph.Path
import IncludeGraph.Node
import IncludeGraph.Table
import IncludeGraph.Text.Sorted

/-! The include graph of one translation unit, and the lists that a build needs of it. -/

namespace IncludeGraph

/-- A finished graph: the path of its root, its files and system includes in the order in which they were met,
the include paths in use and the problems met. -/
structure Graph where
  root : String
  nodes : Table String Node
  systems : Table String Node
  usedPaths : List String
  diagnostics : List Diagnostic
  deriving DecidableEq, Repr

namespace Graph

/-- The paths of the nodes of one kind, descending. -/
def pathsOf (graph : Graph) (kind : Kind) : List String :=
  Text.descending ((graph.nodes.values.filter (·.kind = kind)).map (·.path))

/-- The include paths in use, descending. -/
def includePaths (graph : Graph) : List String := Text.descending graph.usedPaths

/-- The headers, missing ones included, descending. -/
def headers (graph : Graph) : List String := graph.pathsOf .header

/-- The root and the companions of headers, descending. -/
def sources (graph : Graph) : List String := graph.pathsOf .source

/-- The spellings of the system includes, ascending. -/
def systemIncludes (graph : Graph) : List String := Text.ascending graph.systems.keys

/-- The paths of the files that were not found, descending. -/
def missing (graph : Graph) : List String :=
  Text.descending ((graph.nodes.entries.filter fun entry => !entry.2.isPresent).map (·.1))

/-- The node under a path, which is made absolute in a working directory. -/
def node? (graph : Graph) (directory path : String) : Option Node := graph.nodes.find? (Path.absolute directory path)

def rootNode? (graph : Graph) : Option Node := graph.nodes.find? graph.root

/-- The links from one file, in the order of its includes. -/
def edgesFrom (graph : Graph) (path : String) : List (String × String) :=
  (((graph.nodes.find? path).bind (·.children)).getD []).map fun child => (path, child.text)

/-- Every link: files in ascending order, and the includes of each in the order of its lines. -/
def edges (graph : Graph) : List (String × String) := (Text.ascending graph.nodes.keys).flatMap graph.edgesFrom

def describe (graph : Graph) : String :=
  "SourceGraph(root=" ++ Text.quoted graph.root ++ ", headers=" ++ toString graph.headers.length
    ++ ", sources=" ++ toString graph.sources.length ++ ")"

end Graph

end IncludeGraph
