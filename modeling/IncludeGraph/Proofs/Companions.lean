import IncludeGraph.Proofs.Diagnostics
import IncludeGraph.Proofs.LeastClosure

/-! Companions of headers. A companion that is a regular file becomes a source when its header is read, unless an
include has made it a header before: a node keeps the kind with which it was introduced. -/

namespace IncludeGraph.Proofs.Companions
open Traversal Growth Resolution Turns WorklistInvariant Builds QueueDiscipline Closure LeastClosure History
open Introductions Openings Diagnostics

/-- When the turn of a header comes, its companion is a header already, since a file that was read before includes it.
A node keeps the kind with which it was introduced. -/
def Forestalled (around : Surroundings) (root header path : String) : Prop :=
  ∃ state node parent origin children,
    Relation.ReflTransGen (Advances around) (start around.index root) state ∧ opened state = [header] ∧
    state.nodes.find? path = some node ∧ node.kind = .header ∧ node.parent = some parent ∧
    state.nodes.find? parent = some origin ∧ origin.status = .resolved ∧ origin.children = some children ∧
    .file path ∈ children

/-- The companions of all headers are sources: wherever a header of a graph is there, each of its companions that is a
regular file is listed as a source. -/
def CompanionLaw (files : FileSystem) (root : String) (directories : List IncludeDirectory) (options : Options) : Prop :=
  ∀ graph, (Graph.build files root directories options).2 = .ok graph → ∀ header ∈ graph.headers,
    ∀ node, graph.nodes.find? header = some node → node.isPresent = true → ∀ suffix ∈ options.companionSuffixes,
      files.isFile (companionPath header suffix) = true → companionPath header suffix ∈ graph.sources

variable {around : Surroundings} {root header path : String} {node new : Node} {gain : Gain}
  {before middle after state last : Traversal}

private theorem kind_at_end (finishes : Finishes around root last)
    (runs : Relation.ReflTransGen (Advances around) (start around.index root) state)
    (found : state.nodes.find? path = some node) :
    ∃ later, last.nodes.find? path = some later ∧ later.kind = node.kind := by
  have valid := invariant_of_runs runs
  obtain ⟨later, there, kind, -⟩ := (valid.run (reaches_end finishes runs)).2.nodes path node found
  exact ⟨later, there, kind⟩

private theorem header_of_forestalled (finishes : Finishes around root last)
    (forestalled : Forestalled around root header path) :
    ∃ node, last.nodes.find? path = some node ∧ node.kind = .header := by
  obtain ⟨state, node, _, _, _, runs, -, found, kind, -⟩ := forestalled
  obtain ⟨later, there, same⟩ := kind_at_end finishes runs found
  exact ⟨later, there, same.trans kind⟩

/-- The turn of a header makes sources of the companions that are not known yet. -/
private theorem source_of_turn (turn : Turn around header node new gain before middle after)
    (stepped : step around before = .next after) (isHeader : node.kind = .header) {bytes : List UInt8}
    (opens : around.files.read header = .ok bytes) (companion : Companion around header path)
    (unmet : path ∉ before.nodes.keys) : ∃ later, after.nodes.find? path = some later ∧ later.kind = .source := by
  rcases turn_moments turn stepped with ⟨absent, -⟩ | ⟨content, children, linked, -, -, -, linking, nodes⟩
  · cases absent.symm.trans opens
  · obtain ⟨suffix, inside, rfl, regular⟩ := companion
    obtain ⟨early, probed⟩ :=
      addCompanions_accompanied around header around.options.companionSuffixes (taken before header)
    have known := probed.complete suffix inside regular
    rw [probed.grows.keys, taken_nodes] at known
    obtain ⟨file, member, same⟩ : ∃ file ∈ early.files, file.path = companionPath header suffix := by
      rcases List.mem_append.mp known with old | fresh
      · exact absurd old unmet
      · exact List.mem_map.mp fresh
    have added := probed.grows.added member
    obtain ⟨late, more⟩ := link_linked around header (Finding.scan (readText content))
      (accompanied around before header node.kind)
    have kept := more.grows.kept (by simpa only [accompanied, isHeader, if_true] using added)
    rw [linking, same] at kept
    have different : header ≠ companionPath header suffix := by
      intro own
      exact unmet (own ▸ (Table.mem_keys_iff _ _).mpr ⟨node, turn.found⟩)
    exact ⟨_, by rw [nodes, Table.find?_insert_of_ne different, kept], (probed.files file member).1⟩

private theorem forestalled_or_source (finishes : Finishes around root last)
    (found : last.nodes.find? header = some node)
    (isHeader : node.kind = .header) {bytes : List UInt8} (opens : around.files.read header = .ok bytes)
    (companion : Companion around header path) :
    Forestalled around root header path ∨ ∃ later, last.nodes.find? path = some later ∧ later.kind = .source := by
  obtain ⟨paths, trace, all, -⟩ := exists_openings finishes
  obtain ⟨waiting, new, gain, before, middle, after, runs, stepped, turn, -⟩ :=
    exists_turn trace (all.mem_iff.mpr ((Table.mem_keys_iff _ _).mpr ⟨node, found⟩))
  have valid := invariant_of_runs runs
  -- What was known at the turn of the header keeps its kind; what was not is added as a source.
  by_cases met : path ∈ before.nodes.keys
  · obtain ⟨known, there⟩ := (Table.mem_keys_iff _ _).mp met
    cases kind : known.kind with
    | source =>
      obtain ⟨later, present, same⟩ := kind_at_end finishes runs there
      exact Or.inr ⟨later, present, same.trans kind⟩
    | header =>
      have below : path ≠ root := by
        rintro rfl
        obtain ⟨first, rooted, source, -⟩ := valid.rooted
        obtain rfl := Option.some.inj (rooted.symm.trans there)
        cases source.symm.trans kind
      obtain ⟨parent, origin, children, by_, reader, resolved, listed, how⟩ := valid.introduced path known there below
      rw [kind] at how
      cases how with
      | included child =>
        exact Or.inl ⟨before, known, parent, origin, children, runs, opened_of_turn turn,
          there, kind, by_, reader, resolved, listed, child⟩
  · have kind : waiting.kind = .header := by
      obtain ⟨later, there, same⟩ := kind_at_end finishes runs turn.found
      obtain rfl := Option.some.inj (there.symm.trans found)
      exact same.symm.trans isHeader
    obtain ⟨later, there, source⟩ := source_of_turn turn stepped kind opens companion met
    obtain ⟨final, present, same⟩ := kind_at_end finishes (runs.tail stepped) there
    exact Or.inr ⟨final, present, same.trans source⟩

theorem companions_of_finishes (finishes : Finishes around root last) (found : last.nodes.find? header = some node)
    (isHeader : node.kind = .header) {bytes : List UInt8} (opens : around.files.read header = .ok bytes)
    (companion : Companion around header path) :
    (path ∈ (Graph.ofTraversal root last).sources ↔ ¬ Forestalled around root header path) ∧
      (path ∈ (Graph.ofTraversal root last).headers ↔ Forestalled around root header path) := by
  have listed := fun kind => mem_pathsOf finishes.invariant finishes.idle kind path
  -- A node has one kind at the end, so that it is enough to know which.
  rcases forestalled_or_source finishes found isHeader opens companion with forestalled | ⟨later, there, source⟩
  · obtain ⟨later, there, kind⟩ := header_of_forestalled finishes forestalled
    simp only [Graph.sources, Graph.headers, listed, there, forestalled, Option.some.injEq, exists_eq_left', kind,
      not_true, reduceCtorEq, and_self]
  · have free : ¬ Forestalled around root header path := by
      intro forestalled
      obtain ⟨other, present, kind⟩ := header_of_forestalled finishes forestalled
      obtain rfl := Option.some.inj (present.symm.trans there)
      cases source.symm.trans kind
    simp only [Graph.sources, Graph.headers, listed, there, free, Option.some.injEq, exists_eq_left', source,
      not_false_iff, reduceCtorEq, and_self]

/-- The companions of a header that is there are sources, but for those that an include has made headers before. -/
theorem build_companions {files : FileSystem} {directories : List IncludeDirectory} {options : Options} {graph : Graph}
    (built : (Graph.build files root directories options).2 = .ok graph) :
    ∃ index, (HeaderIndex.build files options.headerSuffixes directories).2 = .ok index ∧
      ∀ header ∈ graph.headers, ∀ node, graph.nodes.find? header = some node → node.isPresent = true →
        ∀ suffix ∈ options.companionSuffixes, files.isFile (companionPath header suffix) = true →
          (companionPath header suffix ∈ graph.sources ↔
            ¬ Forestalled ⟨files, index, options⟩ (Path.absolute files.currentPath root) header
              (companionPath header suffix)) ∧
          (companionPath header suffix ∈ graph.headers ↔
            Forestalled ⟨files, index, options⟩ (Path.absolute files.currentPath root) header
              (companionPath header suffix)) := by
  obtain ⟨index, last, indexed, finishes, rfl⟩ := build_ok_iff.mp built
  refine ⟨index, indexed, ?_⟩
  intro header member node found present suffix inside regular
  obtain ⟨same, there, kind⟩ := (mem_pathsOf finishes.invariant finishes.idle .header header).mp member
  obtain rfl := Option.some.inj (there.symm.trans found)
  rcases node_cases finishes found with ⟨-, absent, -⟩ | ⟨bytes, children, opens, -, -⟩
  · cases absent.symm.trans present
  · exact companions_of_finishes finishes found kind opens ⟨suffix, inside, rfl, regular⟩

/-- Two headers with their companions, one of which is included before its header is read. -/
def includedSource : FileSystem :=
  ⟨["w"], ⟨[(["w"], .directory true),
    (["w", "m.cpp"], textEntry "#include \"a.cpp\"\n#include \"a.h\"\n#include \"b.h\"\n"),
    (["w", "a.h"], textEntry ""), (["w", "a.cpp"], textEntry ""),
    (["w", "b.h"], textEntry ""), (["w", "b.cpp"], textEntry "")]⟩⟩

def includedSourceGraph : Graph where
  root := "/w/m.cpp"
  nodes := ⟨[
    ("/w/m.cpp",
      ⟨.source, .file "/w/m.cpp" true, .resolved, none, some [.file "/w/a.cpp", .file "/w/a.h", .file "/w/b.h"]⟩),
    ("/w/a.cpp", ⟨.header, .file "/w/a.cpp" true, .resolved, some "/w/m.cpp", some []⟩),
    ("/w/a.h", ⟨.header, .file "/w/a.h" true, .resolved, some "/w/m.cpp", some []⟩),
    ("/w/b.h", ⟨.header, .file "/w/b.h" true, .resolved, some "/w/m.cpp", some []⟩),
    ("/w/b.cpp", ⟨.source, .file "/w/b.cpp" true, .resolved, some "/w/b.h", some []⟩)]⟩
  systems := {}
  usedPaths := ["/w"]
  diagnostics := []

private theorem includedSource_indexed : (HeaderIndex.build includedSource [".h"] []).2 = .ok {} := by decide +kernel

private theorem includedSource_built : (Graph.build includedSource "m.cpp" [] {}).2 = .ok includedSourceGraph :=
  build_of_endWithin 6 includedSource_indexed (by decide +kernel)

theorem build_companions_includedSource :
    (Graph.build includedSource "m.cpp" [] {}).2 = .ok includedSourceGraph ∧
    Forestalled ⟨includedSource, {}, {}⟩ "/w/m.cpp" "/w/a.h" "/w/a.cpp" ∧
    ¬ Forestalled ⟨includedSource, {}, {}⟩ "/w/m.cpp" "/w/b.h" "/w/b.cpp" := by
  obtain ⟨index, indexed, companions⟩ := build_companions includedSource_built
  obtain rfl := Except.ok.inj (indexed.symm.trans includedSource_indexed)
  have root : Path.absolute includedSource.currentPath "m.cpp" = "/w/m.cpp" := by decide +kernel
  have first : companionPath "/w/a.h" ".cpp" = "/w/a.cpp" := by decide +kernel
  have second : companionPath "/w/b.h" ".cpp" = "/w/b.cpp" := by decide +kernel
  have taken := companions "/w/a.h" (by decide +kernel) _ rfl rfl ".cpp" (by decide) (by decide +kernel)
  have free := companions "/w/b.h" (by decide +kernel) _ rfl rfl ".cpp" (by decide) (by decide +kernel)
  rw [root, first] at taken
  rw [root, second] at free
  exact ⟨includedSource_built, taken.2.mp (by decide +kernel), free.1.mp (by decide +kernel)⟩

theorem not_companionLaw_includedSource : ¬ CompanionLaw includedSource "m.cpp" [] {} := by
  intro law
  have source := law includedSourceGraph includedSource_built "/w/a.h" (by decide +kernel) _ rfl rfl ".cpp" (by decide)
    (by decide +kernel)
  have absent : companionPath "/w/a.h" ".cpp" ∉ includedSourceGraph.sources := by decide +kernel
  exact absent source

end IncludeGraph.Proofs.Companions
