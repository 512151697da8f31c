import IncludeGraph.Proofs.Indexing
import IncludeGraph.Proofs.Locations
import IncludeGraph.Proofs.ResultLists

/-! The keys of a graph are paths in normal form, whatever the root, the declared directories and the names in
directives look like. Only companions are not collapsed, which matters for suffixes that hold a slash. Without links a
file has therefore one node, but that two slashes at the beginning of a path make another key than one. -/

namespace IncludeGraph.Proofs.NodeKeys
open Traversal Resolution WorklistInvariant Builds Closure Indexing ResultLists Paths Walks NormalPaths Locations

/-- The companion of a header by a suffix that leads to another directory. Its path is joined like any other, but not
made absolute again. -/
def Sidelong (options : Options) (graph : Graph) (path : String) : Prop :=
  ∃ header ∈ graph.headers, ∃ suffix ∈ options.companionSuffixes, '/' ∈ suffix.toList ∧
    companionPath header suffix = path

/-- Two keys that spell the same names. They differ in a second slash at the beginning, or one of them was never made
absolute again. -/
structure Doubles (options : Options) (graph : Graph) (first second : String) : Prop where
  names : Path.names first.toList = Path.names second.toList
  spelling : Respelt first second ∨ Sidelong options graph first ∨ Sidelong options graph second

def OneNodePerFile (files : FileSystem) (root : String) (directories : List IncludeDirectory) (options : Options) :
    Prop :=
  Linkless files → ∀ graph, (Graph.build files root directories options).2 = .ok graph →
    ∀ first ∈ graph.nodes.keys, ∀ second ∈ graph.nodes.keys, SameFile files first second → first = second

variable {files : FileSystem} {around : Surroundings} {root path name : String} {node : Node} {graph : Graph}
  {directories : List IncludeDirectory} {options : Options} {index : HeaderIndex} {last : Traversal}

theorem normal_of_indexed {suffixes : List String}
    (indexed : (HeaderIndex.build files suffixes directories).2 = .ok index) (found : index.find? name = some path) :
    Normal path := by
  obtain ⟨_, directory, _, -, ⟨names, file, reached, holds, -, -, rfl⟩, -⟩ :=
    ((indexes_of_built indexed).find?_eq_some name path).mp found
  obtain ⟨entries, entry, listed, member, -⟩ := holds
  rw [← pathBelow_concat_eq_join]
  apply normal_pathBelow (normal_absolute _ _)
  intro other inside
  rcases List.mem_append.mp inside with before | final
  · exact isName_of_reached (by simp) reached other before
  · rw [List.mem_singleton.mp final]
    exact isName_of_listed listed member

/-- A node other than the root has a parent that introduced it. -/
private theorem exists_parent (closes : Closes around root graph) (found : graph.nodes.find? path = some node)
    (below : path ≠ root) : ∃ parent origin children bytes, graph.nodes.find? parent = some origin ∧
      around.files.read parent = .ok bytes ∧ origin.children = some children ∧
      Introduces around parent origin.kind children node.kind path := by
  have known : path ∈ graph.nodes.keys := (Table.mem_keys_iff _ _).mpr ⟨node, found⟩
  rcases (closes.ascends path known).cases_head with same | ⟨parent, ⟨other, there, by_⟩, -⟩
  · exact absurd same below
  · obtain rfl := Option.some.inj (there.symm.trans found)
    obtain ⟨origin, children, bytes, introduced⟩ := closes.parents path other parent there by_
    exact ⟨parent, origin, children, bytes, introduced⟩

theorem normal_of_header (closes : Closes around root graph)
    (entries : ∀ name target, around.index.find? name = some target → Normal target)
    (found : graph.nodes.find? path = some node) (header : node.kind = .header) : Normal path := by
  have below : path ≠ root := by
    rintro rfl
    obtain ⟨start, there, source, -⟩ := closes.rooted.2
    obtain rfl := Option.some.inj (there.symm.trans found)
    cases source.symm.trans header
  obtain ⟨parent, origin, children, bytes, there, opens, listed, introduced⟩ := exists_parent closes found below
  rw [header] at introduced
  cases introduced with
  | included child =>
    obtain ⟨_, same, means, -⟩ := closes.children parent origin bytes there opens
    obtain rfl := Option.some.inj (listed.symm.trans same)
    obtain ⟨directive, -, meant⟩ := exists_related means child
    cases meant with
    | own => exact normal_absolute _ _
    | indexed known => exact entries _ _ known

/-- The root and the headers are collapsed, and a companion stands in the directory of a header unless its suffix leads
elsewhere. -/
theorem normal_or_sidelong (finishes : Finishes around root last) (rooted : Normal root)
    (entries : ∀ name target, around.index.find? name = some target → Normal target)
    (known : path ∈ last.nodes.keys) : Normal path ∨ Sidelong around.options (Graph.ofTraversal root last) path := by
  have closes := closes_of_idle finishes.invariant finishes.idle
  obtain ⟨node, found⟩ := (Table.mem_keys_iff _ _).mp known
  by_cases top : path = root
  · exact Or.inl (top ▸ rooted)
  obtain ⟨parent, origin, children, bytes, there, opens, listed, introduced⟩ := exists_parent closes found top
  generalize kind : node.kind = introducedAs at introduced
  cases introduced with
  | included => exact Or.inl (normal_of_header closes entries found kind)
  | accompanied header companion =>
    obtain ⟨suffix, member, rfl, -⟩ := companion
    by_cases slash : '/' ∈ suffix.toList
    · have listed : parent ∈ (Graph.ofTraversal root last).headers :=
        (LeastClosure.mem_pathsOf finishes.invariant finishes.idle .header parent).mpr ⟨origin, there, header⟩
      exact Or.inr ⟨parent, listed, suffix, member, slash, rfl⟩
    · have normal := normal_of_header closes entries there header
      exact Or.inl (normal_companionPath normal (not_slashes_of_read opens) slash)

theorem absolute_of_known (finishes : Finishes around root last) (rooted : Normal root)
    (entries : ∀ name target, around.index.find? name = some target → Normal target)
    (known : path ∈ last.nodes.keys) : path.toList.head? = some '/' := by
  rcases normal_or_sidelong finishes rooted entries known with normal | ⟨header, listed, suffix, -, -, rfl⟩
  · exact head_of_normal normal
  · obtain ⟨node, found, kind⟩ := (LeastClosure.mem_pathsOf finishes.invariant finishes.idle .header header).mp listed
    have closes := closes_of_idle finishes.invariant finishes.idle
    exact head_companionPath (normal_of_header closes entries found kind) suffix

/-- Keys that open one file spell the same names, so that they double each other if they differ. -/
private theorem doubles_of_sameFile (linkless : Linkless around.files) (finishes : Finishes around root last)
    (rooted : Normal root) (entries : ∀ name target, around.index.find? name = some target → Normal target)
    {first second : String} (known : first ∈ last.nodes.keys) (other : second ∈ last.nodes.keys)
    (differ : first ≠ second) (same : SameFile around.files first second) :
    Doubles around.options (Graph.ofTraversal root last) first second := by
  have names := same.names linkless (absolute_of_known finishes rooted entries known)
    (absolute_of_known finishes rooted entries other)
  refine ⟨names, ?_⟩
  rcases normal_or_sidelong finishes rooted entries known with normal | sidelong
  · rcases normal_or_sidelong finishes rooted entries other with usual | sidelong
    · exact Or.inl ((eq_or_respelt normal usual names).resolve_left differ)
    · exact Or.inr (Or.inr sidelong)
  · exact Or.inr (Or.inl sidelong)

private theorem nodup_lists (finishes : Finishes around root last) :
    ((Graph.ofTraversal root last).headers ++ (Graph.ofTraversal root last).sources).Nodup :=
  (Text.descending_nodup _).append (Text.descending_nodup _) (disjoint_lists finishes)

private theorem not_sidelong (slashless : ∀ suffix ∈ options.companionSuffixes, '/' ∉ suffix.toList) :
    ¬ Sidelong options graph path := by
  rintro ⟨_, -, suffix, member, slash, -⟩
  exact slashless suffix member slash

theorem normal_includePaths (declared : around.index.directories = directories.map fun directory =>
      Path.absolute around.files.currentPath directory.path) (finishes : Finishes around root last)
    (keys : ∀ path ∈ last.nodes.keys, Normal path) :
    ∀ path ∈ (Graph.ofTraversal root last).includePaths, Normal path := by
  intro path used
  rcases (mem_includePaths_iff finishes).mp used with directory | ⟨key, known, rfl⟩
  · rw [declared] at directory
    obtain ⟨directory, -, rfl⟩ := List.mem_map.mp directory
    exact normal_absolute _ _
  · exact normal_dirname (keys key known)

/-- The keys and include paths of a graph are collapsed, so that every node is found under its key in whatever directory
the key is looked up. -/
theorem build_normal (slashless : ∀ suffix ∈ options.companionSuffixes, '/' ∉ suffix.toList)
    (built : (Graph.build files root directories options).2 = .ok graph) (directory : String) :
    (∀ path ∈ graph.nodes.keys, Path.absolute directory path = path) ∧
    (∀ path ∈ graph.nodes.keys, ∃ node, graph.nodes.find? path = some node ∧
      graph.node? directory path = some node) ∧
    ∀ path ∈ graph.includePaths, Path.absolute directory path = path := by
  obtain ⟨index, last, indexed, finishes, rfl⟩ := build_ok_iff.mp built
  have keys : ∀ path ∈ last.nodes.keys, Normal path := by
    intro path known
    apply (normal_or_sidelong finishes (normal_absolute _ _) (fun _ _ => normal_of_indexed indexed) known).resolve_right
    exact not_sidelong slashless
  have fixed : ∀ path ∈ last.nodes.keys, Path.absolute directory path = path :=
    fun path known => (absolute_eq_self_iff directory).mpr (keys path known)
  refine ⟨fixed, ?_, ?_⟩
  · intro path known
    obtain ⟨node, found⟩ := (Table.mem_keys_iff _ _).mp known
    refine ⟨node, found, ?_⟩
    rw [Graph.node?, fixed path known]
    exact found
  · intro path used
    apply (absolute_eq_self_iff directory).mpr
    exact normal_includePaths (Precision.directories_of_indexed indexed) finishes keys path used

/-- Spellings that collapsing changes: of the root, of a declared directory and of a quoted header with a companion,
whose stem begins with two dots. -/
def winding : FileSystem :=
  ⟨["w"], ⟨[(["w"], .directory true),
    (["w", "m.cpp"], textEntry "#include \"//w/..h\"\n#include <b.h>\n"),
    (["w", "..h"], textEntry ""), (["w", "..h.cpp"], textEntry ""),
    (["w", "i"], .directory true), (["w", "i", "b.h"], textEntry "")]⟩⟩

def windingGraph : Graph where
  root := "/w/m.cpp"
  nodes := ⟨[
    ("/w/m.cpp", ⟨.source, .file "/w/m.cpp" true, .resolved, none, some [.file "//w/..h", .file "/w/i/b.h"]⟩),
    ("//w/..h", ⟨.header, .file "//w/..h" true, .resolved, some "/w/m.cpp", some []⟩),
    ("/w/i/b.h", ⟨.header, .file "/w/i/b.h" true, .resolved, some "/w/m.cpp", some []⟩),
    ("//w/..h.cpp", ⟨.source, .file "//w/..h.cpp" true, .resolved, some "//w/..h", some []⟩)]⟩
  systems := {}
  usedPaths := ["/w/i", "/w", "//w"]
  diagnostics := []

private theorem winding_indexed : (HeaderIndex.build winding [".h"] [⟨"i/.././/i/", ""⟩]).2 =
    .ok ⟨⟨[("b.h", "/w/i/b.h")]⟩, ["/w/i"]⟩ := by decide +kernel

private theorem winding_built : (Graph.build winding "./x/../m.cpp" [⟨"i/.././/i/", ""⟩] {}).2 = .ok windingGraph :=
  build_of_endWithin 5 winding_indexed (by decide +kernel)

theorem build_normal_winding : (Graph.build winding "./x/../m.cpp" [⟨"i/.././/i/", ""⟩] {}).2 = .ok windingGraph ∧
    Path.absolute "/v" "//w/..h.cpp" = "//w/..h.cpp" ∧
    (∃ node, windingGraph.nodes.find? "//w/..h.cpp" = some node ∧
      windingGraph.node? "/v" "//w/..h.cpp" = some node) ∧
    Path.absolute "/v" "//w" = "//w" := by
  have slashless : ∀ suffix ∈ ({} : Options).companionSuffixes, '/' ∉ suffix.toList := by decide
  obtain ⟨keys, nodes, paths⟩ := build_normal slashless winding_built "/v"
  exact ⟨winding_built, keys _ (by decide), nodes _ (by decide), paths _ (by decide +kernel)⟩

/-- Where there are no links, a file has one node, and is listed once, but for keys that double each other. -/
theorem build_distinguishes (linkless : Linkless files)
    (built : (Graph.build files root directories options).2 = .ok graph) :
    (∀ first ∈ graph.nodes.keys, ∀ second ∈ graph.nodes.keys, first ≠ second → SameFile files first second →
      Doubles options graph first second) ∧
    (graph.headers ++ graph.sources).Pairwise fun first second =>
      SameFile files first second → Doubles options graph first second := by
  obtain ⟨index, last, indexed, finishes, rfl⟩ := build_ok_iff.mp built
  have doubles := fun first second => @doubles_of_sameFile ⟨files, index, options⟩ _ _ linkless finishes
    (normal_absolute _ _) (fun _ _ => normal_of_indexed indexed) first second
  refine ⟨fun first known second other => doubles first second known other, ?_⟩
  have known : ∀ path ∈ (Graph.ofTraversal (Path.absolute files.currentPath root) last).headers ++
      (Graph.ofTraversal (Path.absolute files.currentPath root) last).sources, path ∈ last.nodes.keys :=
    fun path listed => (mem_keys_iff finishes).mpr (List.mem_append.mp listed)
  apply (nodup_lists finishes).imp_of_mem
  intro first second member later differ same
  exact doubles first second (known first member) (known second later) differ same

def doubled : FileSystem :=
  ⟨["w"], ⟨[(["w"], .directory true),
    (["w", "m.cpp"], textEntry "#include \"a.h\"\n#include \"//w/a.h\"\n"), (["w", "a.h"], textEntry "")]⟩⟩

def doubledGraph : Graph where
  root := "/w/m.cpp"
  nodes := ⟨[
    ("/w/m.cpp", ⟨.source, .file "/w/m.cpp" true, .resolved, none, some [.file "/w/a.h", .file "//w/a.h"]⟩),
    ("/w/a.h", ⟨.header, .file "/w/a.h" true, .resolved, some "/w/m.cpp", some []⟩),
    ("//w/a.h", ⟨.header, .file "//w/a.h" true, .resolved, some "/w/m.cpp", some []⟩)]⟩
  systems := {}
  usedPaths := ["/w", "//w"]
  diagnostics := []

private theorem doubled_linkless : Linkless doubled := linkless_of_entries (by simp [doubled, textEntry])

private theorem doubled_indexed : (HeaderIndex.build doubled [".h"] []).2 = .ok {} := by decide +kernel

private theorem doubled_built : (Graph.build doubled "m.cpp" [] {}).2 = .ok doubledGraph :=
  build_of_endWithin 4 doubled_indexed (by decide +kernel)

private theorem doubled_sameFile : SameFile doubled "/w/a.h" "//w/a.h" :=
  ⟨["w", "a.h"], [], by decide +kernel, by decide +kernel⟩

theorem build_distinguishes_doubled : Linkless doubled ∧ (Graph.build doubled "m.cpp" [] {}).2 = .ok doubledGraph ∧
    SameFile doubled "/w/a.h" "//w/a.h" ∧ Doubles {} doubledGraph "/w/a.h" "//w/a.h" := by
  refine ⟨doubled_linkless, doubled_built, doubled_sameFile, ?_⟩
  obtain ⟨keys, -⟩ := build_distinguishes doubled_linkless doubled_built
  exact keys _ (by decide) _ (by decide) (by decide) doubled_sameFile

/-- The root is the companion of a header by a suffix that leads through a directory and back. -/
def sideways : FileSystem :=
  ⟨["w"], ⟨[(["w"], .directory true), (["w", "m.cpp"], textEntry "#include \"a.h\"\n"),
    (["w", "a.h"], textEntry ""), (["w", "a"], .directory true)]⟩⟩

def sidewaysGraph : Graph where
  root := "/w/m.cpp"
  nodes := ⟨[
    ("/w/m.cpp", ⟨.source, .file "/w/m.cpp" true, .resolved, none, some [.file "/w/a.h"]⟩),
    ("/w/a.h", ⟨.header, .file "/w/a.h" true, .resolved, some "/w/m.cpp", some []⟩),
    ("/w/a/../m.cpp",
      ⟨.source, .file "/w/a/../m.cpp" true, .resolved, some "/w/a.h", some [.file "/w/a.h"]⟩)]⟩
  systems := {}
  usedPaths := ["/w", "/w/a/.."]
  diagnostics := []

private theorem sideways_indexed : (HeaderIndex.build sideways [".h"] []).2 = .ok {} := by decide +kernel

private theorem sideways_built :
    (Graph.build sideways "m.cpp" [] ⟨[".h"], ["/../m.cpp"], false⟩).2 = .ok sidewaysGraph :=
  build_of_endWithin 4 sideways_indexed (by decide +kernel)

theorem not_oneNodePerFile : ¬ OneNodePerFile doubled "m.cpp" [] {} ∧
    ¬ OneNodePerFile sideways "m.cpp" [] ⟨[".h"], ["/../m.cpp"], false⟩ := by
  constructor
  · intro single
    have same := single doubled_linkless doubledGraph doubled_built "/w/a.h" (by decide) "//w/a.h" (by decide)
      doubled_sameFile
    exact absurd same (by decide)
  · intro single
    have linkless : Linkless sideways := linkless_of_entries (by simp [sideways, textEntry])
    have one : SameFile sideways "/w/m.cpp" "/w/a/../m.cpp" :=
      ⟨["w", "m.cpp"], Text.Utf8.encode "#include \"a.h\"\n".toList, by decide +kernel, by decide +kernel⟩
    have same := single linkless sidewaysGraph sideways_built "/w/m.cpp" (by decide) "/w/a/../m.cpp" (by decide) one
    exact absurd same (by decide)

end IncludeGraph.Proofs.NodeKeys
