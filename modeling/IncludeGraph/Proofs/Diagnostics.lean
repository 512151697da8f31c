import IncludeGraph.Proofs.Introductions
import IncludeGraph.Proofs.Openings

/-! What a finished graph tells of problems. That a file is missing stands in its node, in the diagnostics and in the
list of missing files, and all of them say what opening the file says; the malformed lines of a file stand together;
and only a quoted directive that the index cannot help brings a missing file into the graph. -/

namespace IncludeGraph.Proofs.Diagnostics
open Traversal Resolution WorklistInvariant Builds QueueDiscipline Closure Indexing Traces History Precedence
open Introductions Openings

def missingFile? : Diagnostic → Option String
  | .missing path => some path
  | .malformed _ _ _ => none

/-- The diagnostics agree with the nodes, and both with the files: every file that is not there is reported once,
every unusable line of the others is reported once, and nothing else is reported. -/
structure Tallies (around : Surroundings) (root : String) (history : List Moment) (graph : Graph) : Prop where
  absent : ∀ path node, graph.nodes.find? path = some node →
    (node.isPresent = false ↔ around.files.read path = .error .missing)
  childless : ∀ path node, graph.nodes.find? path = some node →
    (node.children = none ↔ around.files.read path = .error .missing)
  reported : ∀ path ∈ graph.nodes.keys,
    (graph.diagnostics.count (.missing path) = 1 ↔ around.files.read path = .error .missing)
  reports : (graph.diagnostics.filterMap missingFile?).Perm graph.missing
  counted : (graph.diagnostics.filterMap missingFile?).length = graph.missing.length
  /-- The malformed lines of a file that is there, in line order, next to each other and nowhere else. -/
  malformed : ∀ path node, graph.nodes.find? path = some node → node.isPresent = true → ∃ bytes early late,
    around.files.read path = .ok bytes ∧
    graph.diagnostics = early ++ problemsOf path (Finding.scan (readText bytes)) ++ late ∧
    ∀ problem ∈ early ++ late, problem.file ≠ path
  others : ∀ path line text, .malformed path line text ∈ graph.diagnostics →
    ∃ node, graph.nodes.find? path = some node ∧ node.isPresent = true
  /-- When the directive was resolved the file was not known, and the file of the directive became its parent. -/
  introduced : ∀ path node, graph.nodes.find? path = some node → node.isPresent = false → path ≠ root →
    ∃ moment ∈ history, node.parent = some moment.path ∧ moment.directive.quoted = true ∧
      moment.own around = path ∧ around.index.find? moment.directive.name = none ∧
      path ∉ moment.state.nodes.keys ∧ Records around.files graph moment.path moment.directive (.file path)
  indexed : ∀ name path, around.index.find? name = some path →
    around.files.read path ≠ .error .missing ∧ path ∉ graph.missing
  companions : ∀ header suffix, around.files.isFile (companionPath header suffix) = true →
    around.files.read (companionPath header suffix) ≠ .error .missing ∧ companionPath header suffix ∉ graph.missing

variable {around : Surroundings} {root path : String} {node : Node} {paths : List String} {files : FileSystem}
  {last : Traversal} {history : List Moment} {graph : Graph}

theorem mem_missing_iff (distinct : graph.nodes.keys.Nodup) :
    path ∈ graph.missing ↔ ∃ node, graph.nodes.find? path = some node ∧ node.isPresent = false := by
  rw [Graph.missing, Text.mem_descending, List.mem_map]
  constructor
  · rintro ⟨⟨key, node⟩, member, rfl⟩
    obtain ⟨inside, absent⟩ := List.mem_filter.mp member
    exact ⟨node, Table.lookup_of_mem distinct inside, by simpa using absent⟩
  · intro ⟨node, found, absent⟩
    exact ⟨(path, node), List.mem_filter.mpr ⟨Table.mem_of_lookup found, by simp [absent]⟩, rfl⟩

/-- A node was not found, or its file opened. -/
theorem node_cases (finishes : Finishes around root last) (found : last.nodes.find? path = some node) :
    (around.files.read path = .error .missing ∧ node.isPresent = false ∧ node.children = none) ∨
      ∃ bytes children, around.files.read path = .ok bytes ∧ node.isPresent = true ∧ node.children = some children := by
  have resolved := resolved_of_idle finishes.invariant finishes.idle found
  cases finishes.invariant.visited path node found resolved with
  | missing absent target children => exact Or.inl ⟨absent, by simp [Node.isPresent, target], children⟩
  | opened read target listed => exact Or.inr ⟨_, _, read, by simp [Node.isPresent, target], listed⟩

theorem absent_iff (finishes : Finishes around root last) (found : last.nodes.find? path = some node) :
    node.isPresent = false ↔ around.files.read path = .error .missing := by
  rcases node_cases finishes found with ⟨absent, missing, -⟩ | ⟨bytes, children, read, present, -⟩
  · simp [absent, missing]
  · simp [read, present]

theorem childless_iff (finishes : Finishes around root last) (found : last.nodes.find? path = some node) :
    node.children = none ↔ around.files.read path = .error .missing := by
  rcases node_cases finishes found with ⟨absent, -, childless⟩ | ⟨bytes, children, read, -, listed⟩
  · simp [absent, childless]
  · simp [read, listed]

private theorem filterMap_problemsAt (files : FileSystem) (path : String) :
    (problemsAt files path).filterMap missingFile? = if files.read path = .error .missing then [path] else [] := by
  split
  next absent => simp [problemsAt_of_missing absent, missingFile?]
  next other =>
    apply List.filterMap_eq_nil_iff.mpr
    intro problem member
    unfold problemsAt at member
    split at member
    · obtain ⟨line, text, -, rfl⟩ := mem_problemsOf.mp member
      rfl
    next absent => exact absurd absent other
    · cases member

private theorem filterMap_flatMap_problemsAt (files : FileSystem) (paths : List String) :
    (paths.flatMap (problemsAt files)).filterMap missingFile? = paths.filter (files.read · = .error .missing) := by
  induction paths with
  | nil => rfl
  | cons path rest ih =>
    rw [List.flatMap_cons, List.filterMap_append, ih, filterMap_problemsAt, List.filter_cons]
    by_cases absent : files.read path = .error .missing
    · simp [absent]
    · simp [absent]

private theorem filterMap_diagnostics (trace : Trace opened around (start around.index root) paths last) :
    last.diagnostics.filterMap missingFile? = paths.filter (around.files.read · = .error .missing) := by
  rw [diagnostics_of_trace trace, filterMap_flatMap_problemsAt]

private theorem count_missing (problems : List Diagnostic) (path : String) :
    problems.count (.missing path) = (problems.filterMap missingFile?).count path := by
  rw [List.count_filterMap, List.count]
  congr 1
  funext problem
  cases problem <;> simp [missingFile?]

private theorem count_eq_one_iff (trace : Trace opened around (start around.index root) paths last) (once : paths.Nodup)
    (member : path ∈ paths) :
    last.diagnostics.count (.missing path) = 1 ↔ around.files.read path = .error .missing := by
  rw [count_missing, filterMap_diagnostics trace]
  constructor
  · intro single
    have inside := List.count_pos_iff.mp (single ▸ Nat.one_pos)
    exact of_decide_eq_true (List.mem_filter.mp inside).2
  · intro absent
    exact List.count_eq_one_of_mem (once.filter _) (List.mem_filter.mpr ⟨member, decide_eq_true absent⟩)

/-- The reports name the missing files, each once. -/
private theorem reports_perm (finishes : Finishes around root last)
    (trace : Trace opened around (start around.index root) paths last) (all : paths.Perm last.nodes.keys)
    (once : paths.Nodup) :
    (last.diagnostics.filterMap missingFile?).Perm (Graph.ofTraversal root last).missing := by
  have listed : (Graph.ofTraversal root last).missing.Nodup := Text.descending_nodup _
  rw [filterMap_diagnostics trace]
  refine (List.perm_ext_iff_of_nodup (once.filter _) listed).mpr fun path => ?_
  rw [mem_missing_iff finishes.invariant.distinct, List.mem_filter, all.mem_iff, Table.mem_keys_iff, decide_eq_true_eq]
  constructor
  · intro ⟨⟨node, found⟩, absent⟩
    exact ⟨node, found, (absent_iff finishes found).mpr absent⟩
  · intro ⟨node, found, absent⟩
    exact ⟨⟨node, found⟩, (absent_iff finishes found).mp absent⟩

private theorem malformed_together (finishes : Finishes around root last)
    (trace : Trace opened around (start around.index root) paths last) (all : paths.Perm last.nodes.keys)
    (once : paths.Nodup) (found : last.nodes.find? path = some node) (present : node.isPresent = true) :
    ∃ bytes early late, around.files.read path = .ok bytes ∧
      last.diagnostics = early ++ problemsOf path (Finding.scan (readText bytes)) ++ late ∧
      ∀ problem ∈ early ++ late, problem.file ≠ path := by
  rcases node_cases finishes found with ⟨-, absent, -⟩ | ⟨bytes, children, read, -, -⟩
  · cases absent.symm.trans present
  · have member := all.mem_iff.mpr ((Table.mem_keys_iff _ _).mpr ⟨node, found⟩)
    obtain ⟨early, late, split, others⟩ := problems_together trace once member
    rw [problemsAt_of_read read] at split
    exact ⟨bytes, early, late, read, split, others⟩

private theorem present_of_malformed (finishes : Finishes around root last)
    (trace : Trace opened around (start around.index root) paths last) (all : paths.Perm last.nodes.keys)
    {line : Nat} {text : String} (member : .malformed path line text ∈ last.diagnostics) :
    ∃ node, last.nodes.find? path = some node ∧ node.isPresent = true := by
  rw [diagnostics_of_trace trace] at member
  obtain ⟨other, inside, noted⟩ := List.mem_flatMap.mp member
  obtain rfl : path = other := file_of_problemsAt noted
  obtain ⟨node, found⟩ := (Table.mem_keys_iff _ _).mp (all.mem_iff.mp inside)
  rcases node_cases finishes found with ⟨absent, -, -⟩ | ⟨bytes, children, -, present, -⟩
  · rw [problemsAt_of_missing absent] at noted
    simp at noted
  · exact ⟨node, found, present⟩

private theorem introduced_of_absent (regular : ∀ name target, around.index.find? name = some target →
      around.files.isFile target = true) (chronicle : Chronicle around root history graph)
    (found : graph.nodes.find? path = some node) (below : path ≠ root)
    (missing : around.files.read path = .error .missing) :
    ∃ moment ∈ history, node.parent = some moment.path ∧ moment.directive.quoted = true ∧
      moment.own around = path ∧ around.index.find? moment.directive.name = none ∧
      path ∉ moment.state.nodes.keys ∧ Records around.files graph moment.path moment.directive (.file path) := by
  obtain ⟨last, trace, -, rfl⟩ := chronicle.traced
  have chosen : ∀ moment ∈ history, Chosen around moment := by
    intro moment member
    obtain ⟨past, future, split⟩ := List.append_of_mem member
    exact (chronicle.told past moment future split).2
  have origin := (told_of_trace trace).2.1.origins path ((Table.mem_keys_iff _ _).mpr ⟨node, found⟩)
  obtain ⟨moment, member, quoted, own, unknown, unmet, child⟩ :=
    beside_of_missing regular chosen origin below missing
  obtain ⟨added, there, -, parent⟩ := introducing_of_trace trace moment member path child unmet
  obtain rfl := Option.some.inj (there.symm.trans found)
  exact ⟨moment, member, parent, quoted, own, unknown, unmet, child ▸ chronicle.records member⟩

private theorem tallies_of_chronicle (regular : ∀ name target, around.index.find? name = some target →
      around.files.isFile target = true) (chronicle : Chronicle around root history graph) :
    Tallies around root history graph := by
  have introduced := fun path node => @introduced_of_absent _ _ path node _ _ regular chronicle
  obtain ⟨last, moments, done, rfl⟩ := chronicle.traced
  have finishes : Finishes around root last := ⟨moments.runs, done⟩
  obtain ⟨paths, trace, all, once⟩ := exists_openings finishes
  -- A file that was looked for and found is not missing when it is opened.
  have present : ∀ path, around.files.isFile path = true →
      around.files.read path ≠ .error .missing ∧ path ∉ (Graph.ofTraversal root last).missing := by
    intro path isFile
    refine ⟨read_ne_missing isFile, fun member => ?_⟩
    obtain ⟨node, found, absent⟩ := (mem_missing_iff finishes.invariant.distinct).mp member
    exact read_ne_missing isFile ((absent_iff finishes found).mp absent)
  refine ⟨?_, ?_, ?_, ?_, ?_, ?_, ?_, ?_, ?_, ?_⟩
  · exact fun path node found => absent_iff finishes found
  · exact fun path node found => childless_iff finishes found
  · exact fun path member => count_eq_one_iff trace once (all.mem_iff.mpr member)
  · exact reports_perm finishes trace all once
  · exact (reports_perm finishes trace all once).length_eq
  · exact fun path node found => malformed_together finishes trace all once found
  · exact fun path line text member => present_of_malformed finishes trace all member
  · intro path node found absent below
    exact introduced path node found below ((absent_iff finishes found).mp absent)
  · exact fun name path known => present path (regular name path known)
  · exact fun header suffix isFile => present _ isFile

/-- The diagnostics of a graph tell its missing files and malformed lines exactly. -/
theorem build_tallies {directories : List IncludeDirectory} {options : Options}
    (built : (Graph.build files root directories options).2 = .ok graph) :
    ∃ index history, (HeaderIndex.build files options.headerSuffixes directories).2 = .ok index ∧
      Chronicle ⟨files, index, options⟩ (Path.absolute files.currentPath root) history graph ∧
      Tallies ⟨files, index, options⟩ (Path.absolute files.currentPath root) history graph := by
  obtain ⟨index, history, indexed, chronicle⟩ := exists_chronicle built
  exact ⟨index, history, indexed, chronicle, tallies_of_chronicle (fun _ _ => isFile_of_indexed indexed) chronicle⟩

def gaps : FileSystem :=
  ⟨["w"], ⟨[(["w"], .directory true),
    (["w", "m.cpp"], textEntry "#include \"a.h\"\n#include\n#include \"no.h\"\n"),
    (["w", "a.h"], textEntry "#include <>\n#include \"gone/b.h\"\n")]⟩⟩

def gapsGraph : Graph where
  root := "/w/m.cpp"
  nodes := ⟨[
    ("/w/m.cpp", ⟨.source, .file "/w/m.cpp" true, .resolved, none, some [.file "/w/a.h", .file "/w/no.h"]⟩),
    ("/w/a.h", ⟨.header, .file "/w/a.h" true, .resolved, some "/w/m.cpp", some [.file "/w/gone/b.h"]⟩),
    ("/w/no.h", ⟨.header, .file "/w/no.h" false, .resolved, some "/w/m.cpp", none⟩),
    ("/w/gone/b.h", ⟨.header, .file "/w/gone/b.h" false, .resolved, some "/w/a.h", none⟩)]⟩
  systems := {}
  usedPaths := ["/w", "/w/gone"]
  diagnostics := [.malformed "/w/m.cpp" 2 "#include", .missing "/w/no.h", .malformed "/w/a.h" 1 "#include <>",
    .missing "/w/gone/b.h"]

private theorem gaps_indexed : (HeaderIndex.build gaps [".h"] []).2 = .ok {} := by decide +kernel

private theorem gaps_built : (Graph.build gaps "m.cpp" [] {}).2 = .ok gapsGraph :=
  build_of_endWithin 5 gaps_indexed (by decide +kernel)

theorem build_tallies_gaps : (Graph.build gaps "m.cpp" [] {}).2 = .ok gapsGraph ∧
    gapsGraph.diagnostics.count (.missing "/w/no.h") = 1 ∧
    (gapsGraph.diagnostics.filterMap missingFile?).length = gapsGraph.missing.length ∧
    ∃ history, Chronicle ⟨gaps, {}, {}⟩ "/w/m.cpp" history gapsGraph ∧
      ∃ moment ∈ history, moment.path = "/w/a.h" ∧ moment.directive.quoted = true ∧
        moment.own ⟨gaps, {}, {}⟩ = "/w/gone/b.h" := by
  obtain ⟨index, history, indexed, chronicle, tallies⟩ := build_tallies gaps_built
  obtain rfl := Except.ok.inj (indexed.symm.trans gaps_indexed)
  have root : Path.absolute gaps.currentPath "m.cpp" = "/w/m.cpp" := by decide +kernel
  rw [root] at chronicle tallies
  obtain ⟨moment, member, parent, quoted, own, -⟩ := tallies.introduced "/w/gone/b.h" _ rfl rfl (by decide)
  refine ⟨gaps_built, (tallies.reported "/w/no.h" (by decide)).mpr (by decide +kernel), tallies.counted, history,
    chronicle, moment, member, ?_, quoted, own⟩
  exact (Option.some.inj parent).symm

end IncludeGraph.Proofs.Diagnostics
