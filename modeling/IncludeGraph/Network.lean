import IncludeGraph.Graph

/-! The graph as a plain network for other tools. Files and system includes share one space of names, and
repeated links are one link.

A network is as much of a `DiGraph` of NetworkX as the conversion needs, by what is documented of that class: vertices
are listed in the order in which they were first added, a link that is added again stays one link in its first place, and
links are listed by the order of their first vertices, those of one vertex in the order in which they were added. -/

namespace IncludeGraph

structure Vertex where
  label : String
  kind : Kind
  isPresent : Bool
  isSystem : Bool
  deriving DecidableEq, Repr

/-- Vertices by name and the links between them, in the order in which they were first added. -/
structure Network where
  vertices : Table String Vertex := {}
  links : List (String × String) := []

namespace Network

def fileVertex (path : String) (node : Node) : Vertex := ⟨Path.basename path, node.kind, node.isPresent, false⟩

def systemVertex (name : String) : Vertex := ⟨name, .header, true, true⟩

def ofNodes (nodes : Table String Node) : Network :=
  { vertices := ⟨nodes.entries.map fun (path, node) => (path, fileVertex path node)⟩ }

/-- Adds a link, and its target if there is no vertex of that name. A vertex that is there keeps what it shows. -/
def addLink (network : Network) (link : String × String) : Network where
  vertices :=
    if network.vertices.contains link.2 then network.vertices
    else network.vertices.insert link.2 (systemVertex link.2)
  links := if network.links.contains link then network.links else network.links ++ [link]

def ofGraph (graph : Graph) : Network := graph.edges.foldl addLink (ofNodes graph.nodes)

/-- The links by the order of their first vertices, as `DiGraph.edges` lists them: the successors of each vertex in
turn. -/
def edges (network : Network) : List (String × String) :=
  network.vertices.keys.flatMap fun name => network.links.filter (·.1 = name)

def hasLoop (network : Network) : Bool := network.links.any fun link => link.1 = link.2

end Network

end IncludeGraph
