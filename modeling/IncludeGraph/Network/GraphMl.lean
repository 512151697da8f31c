import IncludeGraph.Network
import IncludeGraph.Network.Xml

/-! Networks in GraphML, as `write_graphml` of NetworkX lays them out. An attribute of vertices is declared by a key when
the first vertex shows it, keys are numbered in that order and stand in front with the last one first, and truth values
are spelled as `True` and `False`. -/

namespace IncludeGraph.Network.GraphMl

def truth (holds : Bool) : String := if holds then "True" else "False"

def data (key content : String) : String :=
  "      <data key=" ++ Xml.value key ++ ">" ++ Xml.text content ++ "</data>\n"

/-- A vertex with its attributes in the order in which they were given, each under its key. -/
def node (entry : String × Vertex) : String :=
  "    <node id=" ++ Xml.value entry.1 ++ ">\n" ++ data "d0" entry.2.label ++ data "d1" entry.2.kind.name
    ++ data "d2" (truth entry.2.isPresent) ++ data "d3" (truth entry.2.isSystem) ++ "    </node>\n"

def edge (link : String × String) : String :=
  "    <edge source=" ++ Xml.value link.1 ++ " target=" ++ Xml.value link.2 ++ " />\n"

def key (id name type : String) : String :=
  "  <key id=" ++ Xml.value id ++ " for=\"node\" attr.name=" ++ Xml.value name ++ " attr.type=" ++ Xml.value type
    ++ " />\n"

def document (network : Network) : String :=
  Xml.declaration
    ++ "<graphml xmlns=\"http://graphml.graphdrawing.org/xmlns\""
    ++ " xmlns:xsi=\"http://www.w3.org/2001/XMLSchema-instance\""
    ++ " xsi:schemaLocation=\"http://graphml.graphdrawing.org/xmlns"
    ++ " http://graphml.graphdrawing.org/xmlns/1.0/graphml.xsd\">\n"
    ++ key "d3" "system" "boolean" ++ key "d2" "exists" "boolean" ++ key "d1" "kind" "string"
    ++ key "d0" "label" "string"
    ++ "  <graph edgedefault=\"directed\">\n"
    ++ String.join (network.vertices.entries.map node) ++ String.join (network.edges.map edge)
    ++ "  </graph>\n</graphml>\n"

end IncludeGraph.Network.GraphMl
