import IncludeGraph.Network.Export
import IncludeGraph.Proofs.NetworkNames
import IncludeGraph.Proofs.Reports

/-! The links of a network. A network has the files of its graph in the order of their nodes and then what else the links
lead to, every link of the graph once and no other, and a file keeps its own attributes whatever links lead to it. The
JSON export lists just that. -/

namespace IncludeGraph.Proofs.NetworkLinks
open Network Builds Closure JsonReading Reports NetworkNames

def strangers (graph : Graph) : List String :=
  ((graph.edges.map (·.2)).filter (· ∉ graph.nodes.keys)).eraseDups

/-- The vertices are the files in their order and what else links lead to, and the links are those of the graph, each
once. The attributes of a file are those of its node. -/
structure Converts (graph : Graph) (network : Network) : Prop where
  names : network.vertices.keys = graph.nodes.keys ++ strangers graph
  distinct : network.vertices.keys.Nodup
  files : ∀ path node, graph.nodes.find? path = some node →
    network.vertices.find? path = some ⟨Path.basename path, node.kind, node.isPresent, false⟩
  links : ∀ link, link ∈ network.edges ↔ link ∈ graph.edges
  once : network.edges.Nodup

def kind? : Json → Option Kind
  | .string "source" => some .source
  | .string "header" => some .header
  | _ => none

def truth? : Json → Option Bool
  | .bool holds => some holds
  | _ => none

def vertex? (item : Json) : Option (String × Vertex) := do
  return (← (item.member? "id").bind text?, ⟨← (item.member? "label").bind text?, ← (item.member? "kind").bind kind?,
    ← (item.member? "exists").bind truth?, ← (item.member? "system").bind truth?⟩)

def link? (item : Json) : Option (String × String) := do
  return (← (item.member? "source").bind text?, ← (item.member? "target").bind text?)

/-- The text is JSON that lists the vertices of the network with their attributes, its links, and nothing else. A
reader that knows only the layout gets both lists back in their order. -/
def Lists (network : Network) (text : String) : Prop :=
  ∃ listing, Json.read? text = some listing ∧
    (listing.member? "nodes").bind (items? vertex?) = some network.vertices.entries ∧
    (listing.member? "edges").bind (items? link?) = some network.edges

/-- An export puts the text into the file, and fails only if the file cannot be written. -/
structure Stores (files : FileSystem) (path text : String) (outcome : Except ExportError Exported) : Prop where
  stored : ∀ after, files.write path text = .ok after →
    ∃ exported, outcome = .ok exported ∧ exported.files = after ∧ exported.text = text
  refused : ∀ fault, files.write path text = .error fault → outcome = .error (.unwritable path fault)

variable {graph : Graph}

private theorem keys_addLink (network : Network) (link : String × String) : (network.addLink link).vertices.keys =
    if link.2 ∈ network.vertices.keys then network.vertices.keys else network.vertices.keys ++ [link.2] := by
  unfold addLink
  dsimp only
  by_cases known : link.2 ∈ network.vertices.keys
  · rw [if_pos ((Table.contains_iff _ _).mpr known), if_pos known]
  · rw [if_neg (mt (Table.contains_iff _ _).mp known), if_neg known,
      Table.keys_insert_of_absent ((Table.find?_eq_none_iff _ _).mpr known)]

/-- Links add their targets behind the names there are, each where it is first met. -/
private theorem keys_addLinks (links : List (String × String)) (network : Network) :
    (links.foldl addLink network).vertices.keys = network.vertices.keys ++
      ((links.map (·.2)).filter (· ∉ network.vertices.keys)).eraseDups := by
  induction links generalizing network with
  | nil => simp
  | cons link rest ih =>
    rw [List.foldl_cons, ih, keys_addLink, List.map_cons]
    by_cases known : link.2 ∈ network.vertices.keys
    · rw [if_pos known, List.filter_cons_of_neg (by simpa using known)]
    · -- A name that has been added is left out of what follows, as a repetition is.
      have behind : (rest.map (·.2)).filter (· ∉ network.vertices.keys ++ [link.2]) =
          ((rest.map (·.2)).filter (· ∉ network.vertices.keys)).filter (!· == link.2) := by
        rw [List.filter_filter]
        refine List.filter_congr fun name _ => ?_
        simp [Bool.and_comm, beq_eq_decide]
      rw [if_neg known, List.filter_cons_of_pos (by simpa using known), List.eraseDups_cons, behind, List.append_assoc,
        List.singleton_append]

private theorem nodup_links_addLink (network : Network) (link : String × String) (distinct : network.links.Nodup) :
    (network.addLink link).links.Nodup := by
  unfold addLink
  dsimp only
  split
  · exact distinct
  next fresh =>
    rw [← List.concat_eq_append]
    exact distinct.concat (by simpa using fresh)

private theorem nodup_links_addLinks (links : List (String × String)) (network : Network)
    (distinct : network.links.Nodup) : (links.foldl addLink network).links.Nodup := by
  induction links generalizing network with
  | nil => exact distinct
  | cons link rest ih => exact ih _ (nodup_links_addLink network link distinct)

/-- Each link stands with its first vertex. -/
private theorem nodup_edges {network : Network} (vertices : network.vertices.keys.Nodup) (links : network.links.Nodup) :
    network.edges.Nodup := by
  refine List.nodup_flatMap.mpr ⟨fun name _ => links.filter _, vertices.imp ?_⟩
  intro first second different link fromFirst fromSecond
  simp only [List.mem_filter, decide_eq_true_eq] at fromFirst fromSecond
  exact different (fromFirst.2.symm.trans fromSecond.2)

private theorem vertex?_node (entry : String × Vertex) : vertex? (NodeLink.node entry) = some entry := by
  obtain ⟨name, label, kind, isPresent, isSystem⟩ := entry
  cases kind with
  | source => rfl
  | header => rfl

private theorem link?_edge (link : String × String) : link? (NodeLink.edge link) = some link := rfl

theorem lists_document (network : Network) : Lists network (NodeLink.document network) := by
  have vertices := items?_map_self vertex?_node network.vertices.entries
  have links := items?_map_self link?_edge network.edges
  exact ⟨NodeLink.value network, read?_print _, vertices, links⟩

theorem stores_exportGraph (files : FileSystem) (graph : Graph) (stamp : Gexf.Stamp) {path : String}
    (extension : Text.lower (Path.extension path) = ".json") :
    Stores files path (NodeLink.document (ofGraph graph)) (exportGraph files graph path stamp) := by
  have format : Format.extensions.lookup (Text.lower (Path.extension path)) = some .nodeLink := by
    rw [extension]
    decide
  have document : Format.nodeLink.document stamp (ofGraph graph) = NodeLink.document (ofGraph graph) := rfl
  constructor
  · intro after stored
    unfold exportGraph
    simp [format, document, stored]
  · intro fault failed
    unfold exportGraph
    simp [format, document, failed]

section
variable {files : FileSystem} {root : String} {directories : List IncludeDirectory} {options : Options}

private theorem converts_of_distinct (distinct : graph.nodes.keys.Nodup) : Converts graph (ofGraph graph) := by
  have vertices : (ofGraph graph).vertices.keys.Nodup := by
    apply nodup_addLinks
    rw [keys_ofNodes]
    exact distinct
  have links : (ofGraph graph).links.Nodup := nodup_links_addLinks _ _ (by simp [ofNodes])
  refine ⟨?_, vertices, ?_, fun link => mem_edges_ofGraph_iff, nodup_edges vertices links⟩
  · rw [ofGraph, keys_addLinks, keys_ofNodes, strangers]
  · intro path node found
    rw [find?_ofGraph, found, Option.map_some, Option.some_or, fileVertex]

/-- The network of a graph and its JSON export lose no link and invent none. -/
theorem network_converts (built : (Graph.build files root directories options).2 = .ok graph) :
    Converts graph (ofGraph graph) ∧ ∀ disk path stamp, Text.lower (Path.extension path) = ".json" →
      ∃ text, Lists (ofGraph graph) text ∧ Stores disk path text (exportGraph disk graph path stamp) := by
  obtain ⟨index, last, -, finishes, rfl⟩ := build_ok_iff.mp built
  have distinct := (closes_of_idle finishes.invariant finishes.idle).distinct
  refine ⟨converts_of_distinct distinct, ?_⟩
  intro disk path stamp extension
  exact ⟨_, lists_document _, stores_exportGraph disk _ stamp extension⟩

end

def braid : FileSystem :=
  ⟨["w"], ⟨[(["w"], .directory true),
    (["w", "m.cpp"], textEntry "#include <v>\n#include \"a.h\"\n#include \"m.cpp\"\n#include \"a.h\"\n"),
    (["w", "a.h"], textEntry "#include \"b.h\"\n#include <v>\n"), (["w", "a.cpp"], textEntry "")]⟩⟩

def braidGraph : Graph where
  root := "/w/m.cpp"
  nodes := ⟨[
    ("/w/m.cpp", ⟨.source, .file "/w/m.cpp" true, .resolved, none,
      some [.system "v", .file "/w/a.h", .file "/w/m.cpp", .file "/w/a.h"]⟩),
    ("/w/a.h", ⟨.header, .file "/w/a.h" true, .resolved, some "/w/m.cpp", some [.file "/w/b.h", .system "v"]⟩),
    ("/w/a.cpp", ⟨.source, .file "/w/a.cpp" true, .resolved, some "/w/a.h", some []⟩),
    ("/w/b.h", ⟨.header, .file "/w/b.h" false, .resolved, some "/w/a.h", none⟩)]⟩
  systems := ⟨[("v", ⟨.header, .system "v", .created, some "/w/m.cpp", none⟩)]⟩
  usedPaths := ["/w"]
  diagnostics := [.missing "/w/b.h"]

private theorem braid_built : (Graph.build braid "m.cpp" [] {}).2 = .ok braidGraph := by
  have indexed : (HeaderIndex.build braid [".h"] []).2 = .ok {} := rfl
  exact build_of_endWithin 6 indexed (by decide +kernel)

theorem network_converts_braid : (Graph.build braid "m.cpp" [] {}).2 = .ok braidGraph ∧
    Text.lower (Path.extension "out.JSON") = ".json" ∧ Converts braidGraph (ofGraph braidGraph) ∧
    strangers braidGraph = ["v"] ∧ (ofGraph braidGraph).edges = [("/w/m.cpp", "v"), ("/w/m.cpp", "/w/a.h"),
      ("/w/m.cpp", "/w/m.cpp"), ("/w/a.h", "/w/b.h"), ("/w/a.h", "v")] ∧
    ∃ text, Lists (ofGraph braidGraph) text ∧ Stores braid "out.JSON" text (exportGraph braid braidGraph "out.JSON") := by
  have extension : Text.lower (Path.extension "out.JSON") = ".json" := by decide +kernel
  obtain ⟨converts, exports⟩ := network_converts braid_built
  exact ⟨braid_built, extension, converts, by decide +kernel, by decide +kernel, exports braid "out.JSON" {} extension⟩

end IncludeGraph.Proofs.NetworkLinks
