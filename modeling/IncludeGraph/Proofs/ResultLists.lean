import IncludeGraph.Proofs.Diagnostics
import IncludeGraph.Proofs.LeastClosure
import IncludeGraph.Proofs.Precision

/-! The lists that a build needs of a graph. They are sorted and name everything once, and they hold what the nodes of
the graph hold: no file, directory, system include or link is left out or made up. -/

namespace IncludeGraph.Proofs.ResultLists
open Traversal Resolution WorklistInvariant Builds Closure StaticRules LeastClosure Precision History Precedence
open Openings Diagnostics

/-- The directives of a graph with their files: files in ascending order, and the directives of each in line order. -/
def sites (around : Surroundings) (graph : Graph) : List (String × Directive) :=
  (Text.ascending graph.nodes.keys).flatMap fun path => (directivesAt around path).map (path, ·)

/-- The edge goes from the file of a directive to the child that the file has for it. -/
def Links (files : FileSystem) (graph : Graph) (site : String × Directive) (edge : String × String) : Prop :=
  ∃ child, Records files graph site.1 site.2 child ∧ edge = (site.1, child.text)

/-- The lists of a graph, each in its order and with exactly what its name says. The edges follow the directives one
by one, so that a repeated include is a repeated edge. -/
structure Exact (around : Surroundings) (directories : List IncludeDirectory) (root : String) (graph : Graph) :
    Prop where
  headers : graph.headers.Pairwise (· > ·)
  sources : graph.sources.Pairwise (· > ·)
  includePaths : graph.includePaths.Pairwise (· > ·)
  missing : graph.missing.Pairwise (· > ·)
  systems : graph.systemIncludes.Pairwise (· < ·)
  disjoint : graph.headers.Disjoint graph.sources
  union : ∀ path, path ∈ graph.nodes.keys ↔ path ∈ graph.headers ∨ path ∈ graph.sources
  rooted : root ∈ graph.sources
  /-- Directories are in use because they are declared, or for the files in them, missing ones included. -/
  used : ∀ path, path ∈ graph.includePaths ↔
    (∃ directory ∈ directories, Path.absolute around.files.currentPath directory.path = path) ∨
      ∃ key ∈ graph.nodes.keys, Path.dirname key = path
  spellings : ∀ name, name ∈ graph.systemIncludes ↔ ∃ path node children, graph.nodes.find? path = some node ∧
    node.children = some children ∧ .system name ∈ children
  edges : List.Forall₂ (Links around.files graph) (sites around graph) graph.edges
  ends : ∀ edge ∈ graph.edges, edge.2 ∈ graph.nodes.keys ∨ edge.2 ∈ graph.systemIncludes

variable {around : Surroundings} {root path name : String} {node : Node} {last : Traversal}

theorem mem_keys_iff (finishes : Finishes around root last) : path ∈ last.nodes.keys ↔
    path ∈ (Graph.ofTraversal root last).headers ∨ path ∈ (Graph.ofTraversal root last).sources := by
  rw [Graph.headers, Graph.sources, mem_pathsOf finishes.invariant finishes.idle,
    mem_pathsOf finishes.invariant finishes.idle, Table.mem_keys_iff]
  constructor
  · intro ⟨node, found⟩
    cases kind : node.kind with
    | header => exact Or.inl ⟨node, found, kind⟩
    | source => exact Or.inr ⟨node, found, kind⟩
  · rintro (⟨node, found, -⟩ | ⟨node, found, -⟩)
    · exact ⟨node, found⟩
    · exact ⟨node, found⟩

theorem disjoint_lists (finishes : Finishes around root last) :
    (Graph.ofTraversal root last).headers.Disjoint (Graph.ofTraversal root last).sources := by
  intro path header source
  obtain ⟨node, found, isHeader⟩ := (mem_pathsOf finishes.invariant finishes.idle .header path).mp header
  obtain ⟨other, there, isSource⟩ := (mem_pathsOf finishes.invariant finishes.idle .source path).mp source
  obtain rfl := Option.some.inj (found.symm.trans there)
  cases isHeader.symm.trans isSource

theorem mem_includePaths_iff (finishes : Finishes around root last) :
    path ∈ (Graph.ofTraversal root last).includePaths ↔
      path ∈ around.index.directories ∨ ∃ key ∈ last.nodes.keys, Path.dirname key = path := by
  obtain ⟨paths, trace, all, -⟩ := exists_openings finishes
  rw [Graph.includePaths, Text.mem_descending]
  change path ∈ last.includePaths ↔ _
  rw [mem_includePaths_of_trace trace]
  simp only [all.mem_iff]

theorem mem_systemIncludes_iff (finishes : Finishes around root last) :
    name ∈ (Graph.ofTraversal root last).systemIncludes ↔ ∃ path node children,
      last.nodes.find? path = some node ∧ node.children = some children ∧ .system name ∈ children := by
  have closes := closes_of_idle finishes.invariant finishes.idle
  rw [Graph.systemIncludes, Text.mem_ascending]
  change name ∈ last.systems.keys ↔ _
  constructor
  · intro member
    obtain ⟨node, found⟩ := (Table.mem_keys_iff _ _).mp member
    exact (closes.systems name node found).2
  · intro ⟨path, node, children, found, listed, child⟩
    rcases node_cases finishes found with ⟨-, -, childless⟩ | ⟨bytes, _, opens, -, -⟩
    · cases childless.symm.trans listed
    · obtain ⟨_, same, -, known⟩ := closes.children path node bytes found opens
      obtain rfl := Option.some.inj (listed.symm.trans same)
      exact known _ child

private theorem forall₂_flatMap {α β γ : Type} {relation : β → γ → Prop} {items : List α} {first : α → List β}
    {second : α → List γ} (each : ∀ item ∈ items, List.Forall₂ relation (first item) (second item)) :
    List.Forall₂ relation (items.flatMap first) (items.flatMap second) := by
  induction items with
  | nil => exact .nil
  | cons item rest ih =>
    rw [List.flatMap_cons, List.flatMap_cons]
    exact List.rel_append (each item (by simp)) (ih fun other member => each other (by simp [member]))

/-- The edges from a file are its directives, each with its child. -/
private theorem edgesFrom_links (finishes : Finishes around root last) (found : last.nodes.find? path = some node) :
    List.Forall₂ (Links around.files (Graph.ofTraversal root last)) ((directivesAt around path).map (path, ·))
      ((Graph.ofTraversal root last).edgesFrom path) := by
  have edges : (Graph.ofTraversal root last).edgesFrom path =
      (node.children.getD []).map fun child => (path, child.text) := by
    change ((((last.nodes.find? path).bind (·.children)).getD []).map _) = _
    rw [found, Option.bind_some]
  rw [edges]
  rcases node_cases finishes found with ⟨absent, -, childless⟩ | ⟨bytes, children, opens, -, listed⟩
  · simp [directivesAt, absent, childless]
  · have closes := closes_of_idle finishes.invariant finishes.idle
    obtain ⟨_, same, means, -⟩ := closes.children path node bytes found opens
    obtain rfl := Option.some.inj (listed.symm.trans same)
    have own : directivesAt around path = directivesOf bytes := by simp only [directivesAt, opens]
    rw [own, listed, Option.getD_some, List.forall₂_map_left_iff, List.forall₂_map_right_iff]
    refine List.forall₂_iff_zip.mpr ⟨means.length_eq, fun {directive child} member => ?_⟩
    exact ⟨child, ⟨node, bytes, children, found, opens, listed, member⟩, rfl⟩

private theorem edges_link (finishes : Finishes around root last) :
    List.Forall₂ (Links around.files (Graph.ofTraversal root last)) (sites around (Graph.ofTraversal root last))
      (Graph.ofTraversal root last).edges := by
  apply forall₂_flatMap
  intro path member
  obtain ⟨node, found⟩ := (Table.mem_keys_iff _ _).mp (Text.mem_ascending.mp member)
  exact edgesFrom_links finishes found

theorem ends_known (finishes : Finishes around root last) {edge : String × String}
    (member : edge ∈ (Graph.ofTraversal root last).edges) :
    edge.2 ∈ last.nodes.keys ∨ edge.2 ∈ (Graph.ofTraversal root last).systemIncludes := by
  obtain ⟨site, -, child, records, rfl⟩ := exists_related (edges_link finishes) member
  have known := Records.known (closes_of_idle finishes.invariant finishes.idle) records
  cases child with
  | file path => exact Or.inl known
  | system name => exact Or.inr (Text.mem_ascending.mpr known)

private theorem exact_of_finishes {directories : List IncludeDirectory}
    (declared : around.index.directories = directories.map fun directory =>
      Path.absolute around.files.currentPath directory.path) (finishes : Finishes around root last) :
    Exact around directories root (Graph.ofTraversal root last) := by
  refine ⟨Text.descending_pairwise _, Text.descending_pairwise _, Text.descending_pairwise _,
    Text.descending_pairwise _, Text.ascending_pairwise _, disjoint_lists finishes, fun path => mem_keys_iff finishes,
    ?_, ?_, fun name => mem_systemIncludes_iff finishes, edges_link finishes, fun edge => ends_known finishes⟩
  · obtain ⟨node, found, source, -⟩ := finishes.invariant.rooted
    exact (mem_pathsOf finishes.invariant finishes.idle .source root).mpr ⟨node, found, source⟩
  · intro path
    rw [mem_includePaths_iff finishes, declared, List.mem_map]
    rfl

/-- Every graph that a build returns has exact lists. -/
theorem build_exact {files : FileSystem} {root : String} {directories : List IncludeDirectory} {options : Options}
    {graph : Graph} (built : (Graph.build files root directories options).2 = .ok graph) :
    ∃ index, (HeaderIndex.build files options.headerSuffixes directories).2 = .ok index ∧
      Exact ⟨files, index, options⟩ directories (Path.absolute files.currentPath root) graph := by
  obtain ⟨index, last, indexed, finishes, rfl⟩ := build_ok_iff.mp built
  exact ⟨index, indexed, exact_of_finishes (directories_of_indexed indexed) finishes⟩

theorem build_exact_knot : (Graph.build knot "m.cpp" [⟨"i", "x"⟩] {}).2 = .ok knotGraph ∧
    Exact ⟨knot, knotIndex, {}⟩ [⟨"i", "x"⟩] "/w/m.cpp" knotGraph := by
  refine ⟨knot_built, ?_⟩
  obtain ⟨index, indexed, exact⟩ := build_exact knot_built
  obtain rfl := Except.ok.inj (indexed.symm.trans knot_indexed)
  have absolute : Path.absolute knot.currentPath "m.cpp" = "/w/m.cpp" := by decide +kernel
  rwa [absolute] at exact

end IncludeGraph.Proofs.ResultLists
