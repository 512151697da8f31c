import IncludeGraph.Network
import IncludeGraph.Network.Xml

/-! Networks in GEXF, as `write_gexf` of NetworkX lays them out. The label of a vertex is an attribute of its element and
the others are values for numbered attributes, links are numbered from zero in their order, and the head tells the day
and the program of the writing. -/

namespace IncludeGraph.Network.Gexf

/-- What a document tells about its making: the day on which it was written, and the library that wrote it. By default
this is some day and one release of NetworkX; nothing else of a document depends on either. -/
structure Stamp where
  date : String := "2000-01-01"
  creator : String := "NetworkX 3.6.1"
  deriving DecidableEq, Repr

def truth (holds : Bool) : String := if holds then "true" else "false"

def attributeKey (id title type : String) : String :=
  "      <attribute id=" ++ Xml.value id ++ " title=" ++ Xml.value title ++ " type=" ++ Xml.value type ++ " />\n"

def datum (id content : String) : String :=
  "          <attvalue for=" ++ Xml.value id ++ " value=" ++ Xml.value content ++ " />\n"

def node (entry : String × Vertex) : String :=
  "      <node id=" ++ Xml.value entry.1 ++ " label=" ++ Xml.value entry.2.label ++ ">\n        <attvalues>\n"
    ++ datum "0" entry.2.kind.name ++ datum "1" (truth entry.2.isPresent) ++ datum "2" (truth entry.2.isSystem)
    ++ "        </attvalues>\n      </node>\n"

def edge (link : (String × String) × Nat) : String :=
  "      <edge source=" ++ Xml.value link.1.1 ++ " target=" ++ Xml.value link.1.2
    ++ " id=" ++ Xml.value (toString link.2) ++ " />\n"

/-- The links, numbered from zero. -/
def edges (links : List (String × String)) : String :=
  if links = [] then "    <edges />\n" else "    <edges>\n" ++ String.join (links.zipIdx.map edge) ++ "    </edges>\n"

def head (stamp : Stamp) : String :=
  "  <meta lastmodifieddate=" ++ Xml.value stamp.date ++ ">\n    <creator>" ++ Xml.text stamp.creator
    ++ "</creator>\n  </meta>\n"

def document (stamp : Stamp) (network : Network) : String :=
  Xml.declaration
    ++ "<gexf xmlns=\"http://www.gexf.net/1.2draft\" xmlns:xsi=\"http://www.w3.org/2001/XMLSchema-instance\""
    ++ " xsi:schemaLocation=\"http://www.gexf.net/1.2draft http://www.gexf.net/1.2draft/gexf.xsd\" version=\"1.2\">\n"
    ++ head stamp
    ++ "  <graph defaultedgetype=\"directed\" mode=\"static\" name=\"\">\n"
    ++ "    <attributes mode=\"static\" class=\"node\">\n"
    ++ attributeKey "0" "kind" "string" ++ attributeKey "1" "exists" "boolean" ++ attributeKey "2" "system" "boolean"
    ++ "    </attributes>\n    <nodes>\n" ++ String.join (network.vertices.entries.map node) ++ "    </nodes>\n"
    ++ edges network.edges ++ "  </graph>\n</gexf>\n"

end IncludeGraph.Network.Gexf
