import IncludeGraph.Proofs.Builds

/-! A finished graph holds its root, whatever its files include, and the companions of its headers; and it holds
nothing that was not introduced by an include or as a companion. -/

namespace IncludeGraph.Proofs.Closure
open Traversal Growth Resolution WorklistInvariant Builds

/-- A graph is closed under includes and companions, and generated from its root by them: what an opened file demands
is there, and whatever is there was demanded by a file that opened. -/
structure Closes (around : Surroundings) (root : String) (graph : Graph) : Prop where
  rooted : graph.root = root ∧
    ∃ node, graph.nodes.find? root = some node ∧ node.kind = .source ∧ node.parent = none
  distinct : graph.nodes.keys.Nodup
  located : ∀ path node, graph.nodes.find? path = some node → node.path = path ∧ node.isSystem = false
  /-- One child for each directive, in the order of the lines. -/
  children : ∀ path node bytes, graph.nodes.find? path = some node → around.files.read path = .ok bytes →
    ∃ children, node.children = some children ∧
      List.Forall₂ (MayMean around path) (directivesOf bytes) children ∧
      ∀ child ∈ children, Known graph.nodes graph.systems child
  companions : ∀ path node bytes, graph.nodes.find? path = some node → node.kind = .header →
    around.files.read path = .ok bytes → ∀ suffix ∈ around.options.companionSuffixes,
      around.files.isFile (companionPath path suffix) = true → companionPath path suffix ∈ graph.nodes.keys
  ascends : ∀ path ∈ graph.nodes.keys, Relation.ReflTransGen (ParentLink graph.nodes) path root
  /-- A parent includes the node, or is a header that opens and has the node as a companion. -/
  parents : ∀ path node parent, graph.nodes.find? path = some node → node.parent = some parent →
    ∃ origin children bytes, graph.nodes.find? parent = some origin ∧ around.files.read parent = .ok bytes ∧
      origin.children = some children ∧ Introduces around parent origin.kind children node.kind path
  systems : ∀ name node, graph.systems.find? name = some node → node.target = .system name ∧
    ∃ path origin children, graph.nodes.find? path = some origin ∧ origin.children = some children ∧
      .system name ∈ children

theorem closes_of_idle {around : Surroundings} {root : String} {last : Traversal}
    (valid : Invariant around root last) (idle : last.worklist = []) :
    Closes around root (Graph.ofTraversal root last) := by
  have visited : ∀ path node, last.nodes.find? path = some node → Visited around last.nodes last.systems path node :=
    fun path node found => valid.visited path node found (resolved_of_idle valid idle found)
  refine ⟨⟨rfl, valid.rooted⟩, valid.distinct, ?_, ?_, ?_, valid.ascends, ?_, ?_⟩
  · intro path node found
    cases visited path node found with
    | missing _ target | opened _ target => simp [Node.path, Node.isSystem, target]
  · intro path node bytes found opened
    cases visited path node found with
    | missing absent => simp [absent] at opened
    | @opened other children read _ listed means known =>
      obtain rfl := Except.ok.inj (read.symm.trans opened)
      exact ⟨children, listed, means, known⟩
  · intro path node bytes found header opened suffix member regular
    cases visited path node found with
    | missing absent => simp [absent] at opened
    | opened _ _ _ _ _ companions => exact companions header _ ⟨suffix, member, rfl, regular⟩
  · intro path node parent found by_
    obtain ⟨origin, children, bytes, there, read, listed, -, how⟩ := valid.introduces found by_
    exact ⟨origin, children, bytes, there, read, listed, how⟩
  · intro name node found
    obtain ⟨parent, origin, children, rfl, there, -, listed, child⟩ := valid.systems name node found
    exact ⟨rfl, parent, origin, children, there, listed, child⟩

/-- Every graph that a build returns is the closure of its root. -/
theorem build_closes {files : FileSystem} {root : String} {directories : List IncludeDirectory} {options : Options}
    {graph : Graph} (built : (Graph.build files root directories options).2 = .ok graph) :
    ∃ index, (HeaderIndex.build files options.headerSuffixes directories).2 = .ok index ∧
      Closes ⟨files, index, options⟩ (Path.absolute files.currentPath root) graph := by
  obtain ⟨index, last, indexed, finishes, rfl⟩ := build_ok_iff.mp built
  exact ⟨index, indexed, closes_of_idle finishes.invariant finishes.idle⟩

def textEntry (text : String) : Entry := .file (Text.Utf8.encode text.toList)

/-- A cycle, a file that includes itself, a companion that includes its own header, a header from the index, a
system include and a missing file. -/
def knot : FileSystem :=
  ⟨["w"], ⟨[(["w"], .directory true),
    (["w", "m.cpp"], textEntry "#include \"a.h\"\n#include <v>\n#include <x/b.h>\n"),
    (["w", "a.h"], textEntry "#include \"a.h\"\n#include \"m.cpp\"\n"),
    (["w", "a.cpp"], textEntry "#include \"a.h\"\n#include \"c.h\"\n"),
    (["w", "i"], .directory true),
    (["w", "i", "b.h"], textEntry "#include \"../a.h\"\n")]⟩⟩

def knotIndex : HeaderIndex := ⟨⟨[("x/b.h", "/w/i/b.h")]⟩, ["/w/i"]⟩

def knotGraph : Graph where
  root := "/w/m.cpp"
  nodes := ⟨[
    ("/w/m.cpp", ⟨.source, .file "/w/m.cpp" true, .resolved, none,
      some [.file "/w/a.h", .system "v", .file "/w/i/b.h"]⟩),
    ("/w/a.h", ⟨.header, .file "/w/a.h" true, .resolved, some "/w/m.cpp", some [.file "/w/a.h", .file "/w/m.cpp"]⟩),
    ("/w/i/b.h", ⟨.header, .file "/w/i/b.h" true, .resolved, some "/w/m.cpp", some [.file "/w/a.h"]⟩),
    ("/w/a.cpp", ⟨.source, .file "/w/a.cpp" true, .resolved, some "/w/a.h", some [.file "/w/a.h", .file "/w/c.h"]⟩),
    ("/w/c.h", ⟨.header, .file "/w/c.h" false, .resolved, some "/w/a.cpp", none⟩)]⟩
  systems := ⟨[("v", ⟨.header, .system "v", .created, some "/w/m.cpp", none⟩)]⟩
  usedPaths := ["/w/i", "/w"]
  diagnostics := [.missing "/w/c.h"]

theorem knot_indexed : (HeaderIndex.build knot [".h"] [⟨"i", "x"⟩]).2 = .ok knotIndex := by decide +kernel

theorem knot_built : (Graph.build knot "m.cpp" [⟨"i", "x"⟩] {}).2 = .ok knotGraph :=
  build_of_endWithin 6 knot_indexed (by decide +kernel)

theorem build_closes_knot : (Graph.build knot "m.cpp" [⟨"i", "x"⟩] {}).2 = .ok knotGraph ∧
    ∃ index, (HeaderIndex.build knot [".h"] [⟨"i", "x"⟩]).2 = .ok index ∧
      Closes ⟨knot, index, {}⟩ (Path.absolute knot.currentPath "m.cpp") knotGraph :=
  ⟨knot_built, build_closes knot_built⟩

end IncludeGraph.Proofs.Closure
