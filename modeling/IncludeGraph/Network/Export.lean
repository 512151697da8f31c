import IncludeGraph.FileSystem.Access
import IncludeGraph.Log
import IncludeGraph.Network.Dot
import IncludeGraph.Network.Gexf
import IncludeGraph.Network.GraphMl
import IncludeGraph.Network.NodeLink

/-! Export of a graph to a file, in the format that the extension of the file names. -/

namespace IncludeGraph.Network

inductive Format where
  | graphMl
  | dot
  | gexf
  | nodeLink
  deriving DecidableEq, Repr

def Format.extensions : List (String × Format) :=
  [(".graphml", .graphMl), (".dot", .dot), (".gexf", .gexf), (".json", .nodeLink)]

/-- The text of a network in a format. Only one of the formats tells about its making. -/
def Format.document (stamp : Gexf.Stamp) (network : Network) : Format → String
  | graphMl => GraphMl.document network
  | dot => Dot.document network
  | gexf => Gexf.document stamp network
  | nodeLink => NodeLink.document network

inductive ExportError where
  | unsupported (extension : String)
  | unwritable (path : String) (fault : Fault)
  deriving DecidableEq, Repr

def ExportError.message : ExportError → String
  | unsupported extension =>
    "Unsupported graph format '" ++ extension ++ "', expected one of "
      ++ ", ".intercalate (Format.extensions.map (·.1))
  | unwritable path fault => fault.message path

/-- A written file system, the text that was written, and what is told about it. -/
structure Exported where
  files : FileSystem
  text : String
  told : List Log.Record

def exportedRecord (path : String) (network : Network) : Log.Record :=
  ⟨.info, .exporter, "Exported include graph to " ++ path ++ " (" ++ toString network.vertices.size ++ " nodes, "
    ++ toString network.links.length ++ " edges)"⟩

/-- Writes a graph to a file. The case of the extension does not matter. -/
def exportGraph (files : FileSystem) (graph : Graph) (path : String) (stamp : Gexf.Stamp := {}) :
    Except ExportError Exported :=
  let extension := Text.lower (Path.extension path)
  match Format.extensions.lookup extension with
  | none => .error (.unsupported extension)
  | some format =>
    let network := ofGraph graph
    let text := format.document stamp network
    match files.write path text with
    | .error fault => .error (.unwritable path fault)
    | .ok files => .ok ⟨files, text, [exportedRecord path network]⟩

end IncludeGraph.Network
