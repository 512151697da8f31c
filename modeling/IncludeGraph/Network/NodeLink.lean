import IncludeGraph.Json.Print
import IncludeGraph.Network

/-! Networks as JSON lists of vertices and links, in the layout that NetworkX documents for `node_link_data`: the kind
of graph, its own attributes, of which there are none here, then `nodes` and `edges`. -/

namespace IncludeGraph.Network.NodeLink

/-- The attributes of a vertex in the order in which they were given, and its name behind them as `id`. -/
def node (entry : String × Vertex) : Json :=
  .object [("label", .string entry.2.label), ("kind", .string entry.2.kind.name), ("exists", .bool entry.2.isPresent),
    ("system", .bool entry.2.isSystem), ("id", .string entry.1)]

/-- A link has no attributes, only the names of its ends. -/
def edge (link : String × String) : Json := .object [("source", .string link.1), ("target", .string link.2)]

def value (network : Network) : Json :=
  .object [("directed", .bool true), ("multigraph", .bool false), ("graph", .object []),
    ("nodes", .array (network.vertices.entries.map node)), ("edges", .array (network.edges.map edge))]

def document (network : Network) : String := (value network).print

end IncludeGraph.Network.NodeLink
