import IncludeGraph.Proofs.Closure
import IncludeGraph.Proofs.Indexing
import IncludeGraph.Proofs.ParallelRuns
import IncludeGraph.Proofs.Precision

/-! The order in which directories are declared. It decides which of two headers a name leads to, and nothing else: where
no name stands for two headers, the same directories in another order have the same graph. Their indexes then lead
each name to the same header, and the order shows in nothing that a graph tells of. -/

namespace IncludeGraph.Proofs.DirectoryOrder
open Traversal Indexing ParallelRuns WorklistInvariant Builds Closure

/-- No name leads to one header below one of the directories and to another below the same or another one. The order
of the directories decides nothing but such names. -/
def Collisionless (files : FileSystem) (suffixes : List String) (directories : List IncludeDirectory) : Prop :=
  ∀ name, ∀ one ∈ directories, ∀ another ∈ directories, ∀ path other,
    Provides files suffixes one name path → Provides files suffixes another name other → path = other

/-- Two graphs tell of the same: files and system includes in the order in which they were met, with all that is known of
them, and the same in every list. -/
structure SameGraph (first second : Graph) : Prop where
  root : second.root = first.root
  nodes : second.nodes = first.nodes
  systems : second.systems = first.systems
  diagnostics : second.diagnostics = first.diagnostics
  includePaths : second.includePaths = first.includePaths
  headers : second.headers = first.headers
  sources : second.sources = first.sources
  systemIncludes : second.systemIncludes = first.systemIncludes
  missing : second.missing = first.missing
  edges : second.edges = first.edges

/-- Two builds have the same graph, or are both refused, or fail for one cause. Which directory a refusal names is left
open, as it is the first of those that cannot be indexed. -/
inductive SameOutcome : Except BuildError Graph → Except BuildError Graph → Prop where
  | built {first second} (same : SameGraph first second) : SameOutcome (.ok first) (.ok second)
  | refused (one another : HeaderIndex.Refusal) : SameOutcome (.error (.index one)) (.error (.index another))
  | failed (failure : Failure) : SameOutcome (.error (.traversal failure)) (.error (.traversal failure))

variable {files : FileSystem} {suffixes : List String} {directories others : List IncludeDirectory}
  {index known : HeaderIndex} {name path : String}

private theorem collisionless_singleton (directory : IncludeDirectory) : Collisionless files suffixes [directory] := by
  intro name one member another inside path other provides provided
  rw [List.mem_singleton.mp member] at provides
  rw [List.mem_singleton.mp inside] at provided
  exact provides.unique provided

theorem Collisionless.congr (apart : Collisionless files suffixes directories)
    (same : ∀ directory, directory ∈ others ↔ directory ∈ directories) : Collisionless files suffixes others :=
  fun name one member another inside => apart name one ((same one).mp member) another ((same another).mp inside)

private theorem provides_of_providedLast (last : ProvidedLast files suffixes directories name path) :
    ∃ directory ∈ directories, Provides files suffixes directory name path := by
  obtain ⟨early, directory, late, rfl, provides, -⟩ := last
  exact ⟨directory, by simp, provides⟩

/-- Without collisions it does not matter which directory came last. -/
theorem find?_eq_some_iff (apart : Collisionless files suffixes directories)
    (indexed : (HeaderIndex.build files suffixes directories).2 = .ok index) :
    index.find? name = some path ↔ ∃ directory ∈ directories, Provides files suffixes directory name path := by
  rw [(indexes_of_built indexed).find?_eq_some]
  constructor
  · exact provides_of_providedLast
  · intro provided
    obtain ⟨directory, member, provides⟩ := provided
    obtain ⟨other, last⟩ := exists_providedLast member provides
    obtain ⟨decider, inside, decides⟩ := provides_of_providedLast last
    rwa [apart name directory member decider inside path other provides decides]

/-- Collisions show in the indexes of the directories, each by itself. -/
private theorem collisionless_of_indexes (indexes : List HeaderIndex)
    (indexed : ∀ directory ∈ directories, ∃ index ∈ indexes,
      (HeaderIndex.build files suffixes [directory]).2 = .ok index)
    (same : ∀ one ∈ indexes, ∀ another ∈ indexes, ∀ header ∈ one.headers.entries, ∀ other ∈ another.headers.entries,
      header.1 = other.1 → header.2 = other.2) : Collisionless files suffixes directories := by
  have entered : ∀ name, ∀ directory ∈ directories, ∀ path, Provides files suffixes directory name path →
      ∃ index ∈ indexes, (name, path) ∈ index.headers.entries := by
    intro name directory member path provides
    obtain ⟨index, listed, built⟩ := indexed directory member
    have found := (find?_eq_some_iff (collisionless_singleton directory) built).mpr ⟨directory, by simp, provides⟩
    exact ⟨index, listed, Table.mem_of_lookup found⟩
  intro name one member another inside path other provides provided
  obtain ⟨first, listed, header⟩ := entered name one member path provides
  obtain ⟨second, known, further⟩ := entered name another inside other provided
  exact same first listed second known _ header _ further rfl

private theorem lookups_of_same (apart : Collisionless files suffixes directories)
    (same : ∀ directory, directory ∈ others ↔ directory ∈ directories)
    (indexed : (HeaderIndex.build files suffixes directories).2 = .ok index)
    (other : (HeaderIndex.build files suffixes others).2 = .ok known) (name : String) :
    known.find? name = index.find? name := by
  apply Option.ext
  intro path
  rw [find?_eq_some_iff (apart.congr same) other, find?_eq_some_iff apart indexed]
  simp only [same]

private theorem directories_of_same (same : ∀ directory, directory ∈ others ↔ directory ∈ directories)
    (indexed : (HeaderIndex.build files suffixes directories).2 = .ok index)
    (other : (HeaderIndex.build files suffixes others).2 = .ok known) (path : String) :
    path ∈ index.directories ↔ path ∈ known.directories := by
  rw [Precision.directories_of_indexed indexed, Precision.directories_of_indexed other]
  simp [same]

private theorem agree_start (index known : HeaderIndex) (root : String) :
    Agree index.directories known.directories (start index root) (start known root) :=
  ⟨[], [], (List.append_nil _).symm, by rw [List.append_nil]; rfl⟩

/-- Runs that agree at their end have graphs that tell of the same. -/
private theorem sameGraph_of_agree {begun later : List String} {first second : Traversal} (root : String)
    (same : ∀ path, path ∈ begun ↔ path ∈ later) (agree : Agree begun later first second) :
    SameGraph (Graph.ofTraversal root first) (Graph.ofTraversal root second) := by
  obtain ⟨log, since, used, rfl⟩ := agree
  have sorted : Text.descending (later ++ since) = Text.descending first.includePaths := by
    apply Text.descending_congr
    intro path
    rw [used, List.mem_append, List.mem_append, same]
  exact ⟨rfl, rfl, rfl, rfl, sorted, rfl, rfl, rfl, rfl, rfl⟩

/-- Neither the order of the directories nor how often one is declared makes a difference. -/
theorem sameOutcome_of_mem_iff {root : String} {options : Options}
    (apart : Collisionless files options.headerSuffixes directories)
    (same : ∀ directory, directory ∈ others ↔ directory ∈ directories) :
    SameOutcome (Graph.build files root directories options).2 (Graph.build files root others options).2 := by
  have first := build_indexes files options.headerSuffixes directories
  have second := build_indexes files options.headerSuffixes others
  -- Either all directories can be indexed, in whatever order, or the first that cannot ends it for each.
  by_cases fine : ∀ directory ∈ directories, Indexable files directory
  · obtain ⟨index, indexed⟩ := first.1.mpr fine
    obtain ⟨known, other⟩ := second.1.mpr fun directory member => fine directory ((same directory).mp member)
    have akin : Akin ⟨files, index, options⟩ ⟨files, known, options⟩ :=
      ⟨rfl, lookups_of_same apart same indexed other, rfl⟩
    have declared := directories_of_same same indexed other
    obtain ⟨failure, states⟩ :=
      (agree_start index known (Path.absolute files.currentPath root)).exhaust akin declared
    rcases ended : exhaust ⟨files, index, options⟩ (start index (Path.absolute files.currentPath root)) with
      ⟨last, failure?⟩
    rcases finished : exhaust ⟨files, known, options⟩ (start known (Path.absolute files.currentPath root)) with
      ⟨final, cause?⟩
    rw [ended, finished] at failure states
    obtain rfl : failure? = cause? := failure
    cases failure? with
    | none =>
      rw [build_ok_iff.mpr ⟨index, last, indexed, finishes_of_exhaust ended, rfl⟩,
        build_ok_iff.mpr ⟨known, final, other, finishes_of_exhaust finished, rfl⟩]
      exact .built (sameGraph_of_agree _ declared states)
    | some failure =>
      rw [(build_fails_iff indexed).mpr ⟨last, ended⟩, (build_fails_iff other).mpr ⟨final, finished⟩]
      exact .failed failure
  · have unfit : ¬ ∀ directory ∈ others, Indexable files directory :=
      fun fit => fine fun directory member => fit directory ((same directory).mpr member)
    obtain ⟨_, _, _, refusal, -, -, -, refused⟩ := first.2.1 fine
    obtain ⟨_, _, _, another, -, -, -, rejected⟩ := second.2.1 unfit
    rw [build_refused_iff.mpr refused, build_refused_iff.mpr rejected]
    exact .refused refusal another

/-- Where no name is provided at two paths, every order of the directories has the same outcome. -/
theorem build_permuted {root : String} {options : Options}
    (apart : Collisionless files options.headerSuffixes directories) (permuted : others.Perm directories) :
    SameOutcome (Graph.build files root directories options).2 (Graph.build files root others options).2 :=
  sameOutcome_of_mem_iff apart fun _ => permuted.mem_iff

def nested : List IncludeDirectory := [⟨".", ""⟩, ⟨"i", "i"⟩, ⟨"i", "x"⟩]

def nestedIndexes : List HeaderIndex :=
  [⟨⟨[("a.h", "/w/a.h"), ("i/b.h", "/w/i/b.h")]⟩, ["/w"]⟩, ⟨⟨[("i/b.h", "/w/i/b.h")]⟩, ["/w/i"]⟩,
    ⟨⟨[("x/b.h", "/w/i/b.h")]⟩, ["/w/i"]⟩]

def nestedGraph : Graph := { knotGraph with usedPaths := ["/w", "/w/i", "/w/i"] }

private theorem nested_collisionless : Collisionless knot [".h"] nested := by
  refine collisionless_of_indexes nestedIndexes ?_ ?_
  · decide +kernel
  · decide

private theorem nested_built : (Graph.build knot "m.cpp" nested {}).2 = .ok nestedGraph := by
  have indexed : (HeaderIndex.build knot [".h"] nested).2 = .ok
      ⟨⟨[("a.h", "/w/a.h"), ("i/b.h", "/w/i/b.h"), ("x/b.h", "/w/i/b.h")]⟩, ["/w", "/w/i", "/w/i"]⟩ := by
    decide +kernel
  exact build_of_endWithin 6 indexed (by decide +kernel)

theorem build_permuted_nested : Collisionless knot [".h"] nested ∧ nested.reverse.Perm nested ∧
    SameOutcome (.ok nestedGraph) (Graph.build knot "m.cpp" nested.reverse {}).2 := by
  have permuted : nested.reverse.Perm nested := List.reverse_perm nested
  refine ⟨nested_collisionless, permuted, ?_⟩
  rw [← nested_built]
  exact build_permuted nested_collisionless permuted

end IncludeGraph.Proofs.DirectoryOrder
