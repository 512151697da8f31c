import IncludeGraph.Network
import IncludeGraph.Proofs.NodeKeys

/-! The names of a network. Files and system includes share one space of names in which the files come first, so that a
system include has a vertex of its own only where its spelling is not the path of a file of the graph. Such a spelling
begins with a slash. -/

namespace IncludeGraph.Proofs.NetworkNames
open Network Builds Closure Indexing ResultLists NormalPaths NodeKeys

/-- Each file and each system include has a vertex of its own, which says what it is. Names are shared, so that a
system include that is spelled like a file stands in the way. -/
structure Separate (graph : Graph) : Prop where
  size : (ofGraph graph).vertices.size = graph.nodes.size + graph.systemIncludes.length
  systems : ∀ name ∈ graph.systemIncludes,
    ∃ vertex, (ofGraph graph).vertices.find? name = some vertex ∧ vertex.isSystem = true
  files : ∀ path ∈ graph.nodes.keys,
    ∃ vertex, (ofGraph graph).vertices.find? path = some vertex ∧ vertex.isSystem = false
  edges : ∀ edge ∈ (ofGraph graph).edges, edge.2 ∈ graph.systemIncludes → edge.2 ∉ graph.nodes.keys

def outsiders (graph : Graph) : List String := graph.systemIncludes.filter (· ∉ graph.nodes.keys)

/-- What the network of a graph consists of: a vertex for each file, one for each system include that is spelled like
no file, and the links of the graph. -/
structure Shows (graph : Graph) (network : Network) : Prop where
  names : network.vertices.keys.Perm (graph.nodes.keys ++ outsiders graph)
  files : ∀ path node, graph.nodes.find? path = some node → network.vertices.find? path = some (fileVertex path node)
  systems : ∀ name ∈ outsiders graph, network.vertices.find? name = some (systemVertex name)
  edges : ∀ edge, edge ∈ network.edges ↔ edge ∈ graph.edges

def SystemsSeparate (files : FileSystem) (root : String) (directories : List IncludeDirectory) (options : Options) :
    Prop :=
  ∀ graph, (Graph.build files root directories options).2 = .ok graph → Separate graph

variable {graph : Graph} {name : String} {link : String × String}

theorem keys_ofNodes (nodes : Table String Node) : (ofNodes nodes).vertices.keys = nodes.keys := by
  simp [ofNodes, Table.keys]

theorem find?_ofNodes (nodes : Table String Node) (path : String) :
    (ofNodes nodes).vertices.find? path = (nodes.find? path).map (fileVertex path) := by
  obtain ⟨entries⟩ := nodes
  induction entries with
  | nil => rfl
  | cons entry rest ih =>
    by_cases same : entry.1 = path
    · simp [ofNodes, Table.find?, Table.lookup, same]
    · simpa [ofNodes, Table.find?, Table.lookup, same] using ih

/-- A name that is known already keeps its vertex. -/
private theorem find?_addLink (network : Network) (link : String × String) (name : String) :
    (network.addLink link).vertices.find? name =
      (network.vertices.find? name).or (if name = link.2 then some (systemVertex name) else none) := by
  unfold addLink Table.contains
  dsimp only
  cases known : network.vertices.find? link.2 with
  | some vertex =>
    by_cases same : name = link.2
    · simp [same, known]
    · simp [same]
  | none =>
    rw [Option.isSome_none, if_neg Bool.false_ne_true, Table.find?_insert]
    by_cases same : link.2 = name
    · simp [← same, known]
    · simp [same, Ne.symm same]

theorem find?_addLinks (links : List (String × String)) (network : Network) (name : String) :
    (links.foldl addLink network).vertices.find? name =
      (network.vertices.find? name).or (if name ∈ links.map (·.2) then some (systemVertex name) else none) := by
  induction links generalizing network with
  | nil => simp
  | cons link rest ih =>
    rw [List.foldl_cons, ih, find?_addLink, Option.or_assoc]
    by_cases same : name = link.2
    · simp [same]
    · have further : name ∈ (link :: rest).map (·.2) ↔ name ∈ rest.map (·.2) := by
        rw [List.map_cons, List.mem_cons, or_iff_right same]
      simp only [same, further, if_false, Option.none_or]

private theorem nodup_addLink (network : Network) (link : String × String) (distinct : network.vertices.keys.Nodup) :
    (network.addLink link).vertices.keys.Nodup := by
  unfold addLink Table.contains
  dsimp only
  cases known : network.vertices.find? link.2 with
  | some vertex => exact distinct
  | none =>
    have fresh := (Table.find?_eq_none_iff _ _).mp known
    rw [Option.isSome_none, if_neg Bool.false_ne_true, Table.keys_insert_of_absent known, ← List.concat_eq_append]
    exact List.Nodup.concat fresh distinct

theorem nodup_addLinks (links : List (String × String)) (network : Network) (distinct : network.vertices.keys.Nodup) :
    (links.foldl addLink network).vertices.keys.Nodup := by
  induction links generalizing network with
  | nil => exact distinct
  | cons link rest ih => exact ih _ (nodup_addLink network link distinct)

private theorem mem_links_addLinks (links : List (String × String)) (network : Network) :
    link ∈ (links.foldl addLink network).links ↔ link ∈ network.links ∨ link ∈ links := by
  induction links generalizing network with
  | nil => simp
  | cons first rest ih =>
    rw [List.foldl_cons, ih, List.mem_cons, ← or_assoc]
    apply or_congr_left
    unfold addLink
    dsimp only
    split
    next known =>
      constructor
      · exact Or.inl
      · intro either
        rcases either with old | rfl
        · exact old
        · exact List.contains_iff_mem.mp known
    · simp

theorem mem_edges_iff {network : Network} :
    link ∈ network.edges ↔ link.1 ∈ network.vertices.keys ∧ link ∈ network.links := by
  simp [Network.edges]

theorem mem_outsiders_iff : name ∈ outsiders graph ↔ name ∈ graph.systemIncludes ∧ name ∉ graph.nodes.keys := by
  simp [outsiders]

/-- The vertex of a name: that of a file if there is one, and else one for the target of a link. -/
theorem find?_ofGraph (graph : Graph) (name : String) : (ofGraph graph).vertices.find? name =
    ((graph.nodes.find? name).map (fileVertex name)).or
      (if name ∈ graph.edges.map (·.2) then some (systemVertex name) else none) := by
  rw [ofGraph, find?_addLinks, find?_ofNodes]

theorem mem_keys_ofGraph_iff :
    name ∈ (ofGraph graph).vertices.keys ↔ name ∈ graph.edges.map (·.2) ∨ name ∈ graph.nodes.keys := by
  rw [Table.mem_keys_iff, Table.mem_keys_iff, find?_ofGraph]
  cases graph.nodes.find? name with
  | some node => simp
  | none => simp

private theorem source_of_edge (member : link ∈ graph.edges) : link.1 ∈ graph.nodes.keys := by
  obtain ⟨path, listed, inside⟩ := List.mem_flatMap.mp member
  obtain ⟨child, -, rfl⟩ := List.mem_map.mp inside
  exact Text.mem_ascending.mp listed

theorem mem_edges_ofGraph_iff : link ∈ (ofGraph graph).edges ↔ link ∈ graph.edges := by
  have links : link ∈ (ofGraph graph).links ↔ link ∈ graph.edges := by
    rw [ofGraph, mem_links_addLinks]
    simp [ofNodes]
  rw [mem_edges_iff, links, and_iff_right_iff_imp]
  intro member
  exact mem_keys_ofGraph_iff.mpr (Or.inr (source_of_edge member))

/-- An edge goes to every child of a file. -/
private theorem edge_of_child {path : String} {node : Node} {children : List Ref} {child : Ref}
    (found : graph.nodes.find? path = some node) (listed : node.children = some children) (member : child ∈ children) :
    (path, child.text) ∈ graph.edges := by
  refine List.mem_flatMap.mpr ⟨path, ?_, ?_⟩
  · exact Text.mem_ascending.mpr ((Table.mem_keys_iff _ _).mpr ⟨node, found⟩)
  · rw [Graph.edgesFrom, found, Option.bind_some, listed]
    exact List.mem_map.mpr ⟨child, member, rfl⟩

section
variable {around : Surroundings} {root : String} {last : Traversal}

private theorem linked_of_system (finishes : Finishes around root last)
    (system : name ∈ (Graph.ofTraversal root last).systemIncludes) :
    name ∈ (Graph.ofTraversal root last).edges.map (·.2) := by
  obtain ⟨path, node, children, found, listed, child⟩ := (mem_systemIncludes_iff finishes).mp system
  have edge : (path, name) ∈ (Graph.ofTraversal root last).edges := edge_of_child found listed child
  exact List.mem_map.mpr ⟨_, edge, rfl⟩

theorem known_iff (finishes : Finishes around root last) :
    name ∈ (ofGraph (Graph.ofTraversal root last)).vertices.keys ↔
      name ∈ (Graph.ofTraversal root last).systemIncludes ∨ name ∈ (Graph.ofTraversal root last).nodes.keys := by
  rw [mem_keys_ofGraph_iff]
  constructor
  · intro either
    rcases either with linked | known
    · obtain ⟨edge, member, rfl⟩ := List.mem_map.mp linked
      exact (ends_known finishes member).symm
    · exact Or.inr known
  · exact Or.imp_left (linked_of_system finishes)

private theorem shows_of_finishes (finishes : Finishes around root last) :
    Shows (Graph.ofTraversal root last) (ofGraph (Graph.ofTraversal root last)) := by
  have distinct : (Graph.ofTraversal root last).nodes.keys.Nodup :=
    (closes_of_idle finishes.invariant finishes.idle).distinct
  refine ⟨?_, ?_, ?_, fun edge => mem_edges_ofGraph_iff⟩
  · have apart : ((Graph.ofTraversal root last).nodes.keys ++ outsiders (Graph.ofTraversal root last)).Nodup := by
      apply distinct.append ((Text.ascending_nodup _).filter _)
      intro name known outside
      exact (mem_outsiders_iff.mp outside).2 known
    -- Neither list repeats a name, so that it is enough that they have the same ones.
    apply (List.perm_ext_iff_of_nodup (nodup_addLinks _ _ ?_) apart).mpr
    · intro name
      rw [List.mem_append, mem_outsiders_iff]
      refine (known_iff finishes).trans ?_
      tauto
    · rw [keys_ofNodes]
      exact distinct
  · intro path node found
    rw [find?_ofGraph, found, Option.map_some, Option.some_or]
  · intro name member
    obtain ⟨system, outside⟩ := mem_outsiders_iff.mp member
    rw [find?_ofGraph, (Table.find?_eq_none_iff _ _).mpr outside, Option.map_none, Option.none_or,
      if_pos (linked_of_system finishes system)]

end

/-- A vertex is that of a file or that of a system include. -/
theorem Separate.apart (separate : Separate graph) : ∀ name ∈ graph.systemIncludes, name ∉ graph.nodes.keys := by
  intro name system known
  obtain ⟨vertex, found, isSystem⟩ := separate.systems name system
  obtain ⟨other, there, isFile⟩ := separate.files name known
  obtain rfl := Option.some.inj (found.symm.trans there)
  cases isSystem.symm.trans isFile

private theorem separate_of_apart (shown : Shows graph (ofGraph graph))
    (apart : ∀ name ∈ graph.systemIncludes, name ∉ graph.nodes.keys) : Separate graph := by
  have all : outsiders graph = graph.systemIncludes :=
    List.filter_eq_self.mpr fun name system => decide_eq_true (apart name system)
  refine ⟨?_, ?_, ?_, fun edge _ system => apart edge.2 system⟩
  · have sizes := shown.names.length_eq
    rw [all, List.length_append] at sizes
    simpa [Table.keys, Table.size] using sizes
  · intro name system
    exact ⟨_, shown.systems name (all ▸ system), rfl⟩
  · intro path known
    obtain ⟨node, found⟩ := (Table.mem_keys_iff _ _).mp known
    exact ⟨_, shown.files path node found, rfl⟩

section
variable {files : FileSystem} {root : String} {directories : List IncludeDirectory} {options : Options}

/-- The network of a graph shows every file, every link, and each system include whose spelling is not the path of a
file. Where it is, the system include is taken for the file. Such a spelling begins with a slash, and nothing else keeps
files and system includes from being apart. -/
theorem network_names (built : (Graph.build files root directories options).2 = .ok graph) :
    Shows graph (ofGraph graph) ∧
    (∀ name ∈ graph.systemIncludes, name ∈ graph.nodes.keys → name.toList.head? = some '/') ∧
    (Separate graph ↔ ∀ name ∈ graph.systemIncludes, name ∉ graph.nodes.keys) := by
  obtain ⟨index, last, indexed, finishes, rfl⟩ := build_ok_iff.mp built
  refine ⟨shows_of_finishes finishes, ?_, Separate.apart, separate_of_apart (shows_of_finishes finishes)⟩
  intro name _ known
  exact absolute_of_known finishes (normal_absolute _ _) (fun _ _ => normal_of_indexed indexed) known

theorem network_names_knot : (Graph.build knot "m.cpp" [⟨"i", "x"⟩] {}).2 = .ok knotGraph ∧ Separate knotGraph := by
  obtain ⟨-, -, separate⟩ := network_names knot_built
  exact ⟨knot_built, separate.mpr (by decide)⟩

end

def angled : FileSystem :=
  ⟨["w"], ⟨[(["w"], .directory true), (["w", "m.cpp"], textEntry "#include </w/m.cpp>\n")]⟩⟩

def angledGraph : Graph where
  root := "/w/m.cpp"
  nodes := ⟨[("/w/m.cpp", ⟨.source, .file "/w/m.cpp" true, .resolved, none, some [.system "/w/m.cpp"]⟩)]⟩
  systems := ⟨[("/w/m.cpp", ⟨.header, .system "/w/m.cpp", .created, some "/w/m.cpp", none⟩)]⟩
  usedPaths := ["/w"]
  diagnostics := []

private theorem angled_built : (Graph.build angled "m.cpp" [] {}).2 = .ok angledGraph := by
  have indexed : (HeaderIndex.build angled [".h"] []).2 = .ok {} := rfl
  exact build_of_endWithin 2 indexed (by decide +kernel)

theorem not_systemsSeparate_angled : ¬ SystemsSeparate angled "m.cpp" [] {} := by
  intro separate
  have apart := (separate angledGraph angled_built).apart "/w/m.cpp" (by decide)
  exact apart (by decide)

end IncludeGraph.Proofs.NetworkNames
