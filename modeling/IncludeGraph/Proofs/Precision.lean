import IncludeGraph.Proofs.Closure

/-! A graph depends on no other file than those it tells of: where two file systems agree on the files of a graph and
on the companions that are probed next to its headers, they have the same graph. The first run is followed step by
step. What a step reads is the file of a node, and a node that was met is a node of the graph. -/

namespace IncludeGraph.Proofs.Precision
open Traversal Growth Resolution Turns WorklistInvariant Builds Closure

/-- What both runs are told alike: all but the content of the file systems. -/
structure Alike (first second : Surroundings) : Prop where
  currentPath : first.files.currentPath = second.files.currentPath
  options : first.options = second.options
  lookups : ∀ name, first.index.find? name = second.index.find? name

variable {first second : Surroundings}

theorem link_congr (alike : Alike first second) (path : String) (findings : List Finding) (state : Traversal) :
    link first path state findings = link second path state findings := by
  induction findings generalizing state with
  | nil => rfl
  | cons finding rest ih =>
    cases finding with
    | malformed line text => exact ih _
    | directive directive => simp only [link, resolve_congr alike.currentPath alike.lookups, alike.options, ih]

theorem addCompanions_congr (alike : Alike first second) (header : String) (suffixes : List String)
    (probes : ∀ suffix ∈ suffixes,
      first.files.isFile (companionPath header suffix) = second.files.isFile (companionPath header suffix))
    (state : Traversal) : addCompanions first header state suffixes = addCompanions second header state suffixes := by
  induction suffixes generalizing state with
  | nil => rfl
  | cons suffix rest ih =>
    have others := ih fun other member => probes other (List.mem_cons_of_mem _ member)
    simp only [addCompanions, probes suffix (by simp), alike.options, others]

/-- What the work on a file asks of the file system: the file itself, and if it is a header that opens, which of its
companions are regular files. -/
structure SameAnswers (first second : Surroundings) (path : String) (kind : Kind) : Prop where
  read : first.files.read path = second.files.read path
  probes : kind = .header → (∃ bytes, first.files.read path = .ok bytes) →
    ∀ suffix ∈ first.options.companionSuffixes,
      first.files.isFile (companionPath path suffix) = second.files.isFile (companionPath path suffix)

/-- The work on a file that opens depends on nothing of its content but on what is found there. -/
theorem process_congr_of_scan (alike : Alike first second) {path : String} {node : Node} {present : Bool}
    {bytes others : List UInt8} (own : node.target = .file path present) (opens : first.files.read path = .ok bytes)
    (opensToo : second.files.read path = .ok others)
    (found : Finding.scan (readText bytes) = Finding.scan (readText others))
    (probes : node.kind = .header → ∀ suffix ∈ first.options.companionSuffixes,
      first.files.isFile (companionPath path suffix) = second.files.isFile (companionPath path suffix))
    (state : Traversal) : process first state (.listed path) node = process second state (.listed path) node := by
  simp only [process, own, Item.readPath, opens, opensToo, found]
  by_cases header : node.kind = .header
  · have accompanied : ∀ state, addCompanions first path state first.options.companionSuffixes =
        addCompanions second path state second.options.companionSuffixes := by
      intro state
      rw [addCompanions_congr alike path _ (probes header), alike.options]
    simp only [header, if_true, accompanied, link_congr alike]
  · simp only [header, if_false, link_congr alike]

theorem process_congr (alike : Alike first second) {path : String} {node : Node} {present : Bool}
    (own : node.target = .file path present) (same : SameAnswers first second path node.kind) (state : Traversal) :
    process first state (.listed path) node = process second state (.listed path) node := by
  cases read : first.files.read path with
  | error fault =>
    simp only [process, own, Item.readPath, ← same.read, read]
    cases fault <;> rfl
  | ok bytes =>
    exact process_congr_of_scan alike own read (same.read.symm.trans read) rfl
      (fun header => same.probes header ⟨bytes, read⟩) state

theorem step_congr (alike : Alike first second) {path : String} {node new : Node} {gain : Gain}
    {before middle after : Traversal} (turn : Turn first path node new gain before middle after)
    (same : SameAnswers first second path node.kind) : step first before = step second before := by
  obtain ⟨rest, list⟩ : ∃ rest, before.worklist = .listed path :: rest := ⟨_, turn.first⟩
  have processed := process_congr alike turn.waiting.target same { before with worklist := rest }
  simp only [step, list, node?, turn.found, turn.waiting.status, processed]

/-- The files that the finished traversal tells of, and the probes next to its headers. They cover what any of its
steps asked for, since nodes are never given up. -/
structure Covers (first second : Surroundings) (nodes : Table String Node) : Prop where
  reads : ∀ path ∈ nodes.keys, first.files.read path = second.files.read path
  probes : ∀ path node, nodes.find? path = some node → node.kind = .header → node.isPresent = true →
    ∀ suffix ∈ first.options.companionSuffixes,
      first.files.isFile (companionPath path suffix) = second.files.isFile (companionPath path suffix)

/-- All that a turn asks of the file system is covered by the nodes of any later state. -/
private theorem Covers.answers {path : String} {node new : Node} {gain : Gain} {before middle after last : Traversal}
    (covers : Covers first second last.nodes) (turn : Turn first path node new gain before middle after)
    (follows : Follows after last) : SameAnswers first second path node.kind := by
  obtain ⟨later, there, -, -, kept⟩ := follows.nodes path new turn.found_after
  obtain rfl := kept turn.kept.2.2.1
  refine ⟨covers.reads path ((Table.mem_keys_iff _ _).mpr ⟨later, there⟩), ?_⟩
  intro header opens
  obtain ⟨bytes, read⟩ := opens
  have present : later.isPresent = true := by
    cases turn.reads with
    | missing absent => simp [absent] at read
    | opened => simp [readNode, Node.isPresent, turn.waiting.target]
  exact covers.probes path later there (turn.kept.1.trans header) present

theorem runs_congr {root : String} {state last : Traversal} (alike : Alike first second)
    (covers : Covers first second last.nodes) (valid : Invariant first root state)
    (runs : Relation.ReflTransGen (Advances first) state last) :
    Relation.ReflTransGen (Advances second) state last := by
  -- From the front, so that the rest of the run leads on to the state whose nodes cover the turn.
  induction runs using Relation.ReflTransGen.head_induction_on with
  | refl => exact .refl
  | @head before after advances later ih =>
    obtain ⟨path, node, new, gain, middle, turn⟩ := valid.toOrderly.turn advances
    have next := valid.turn turn
    have same := step_congr alike turn (covers.answers turn (next.run later).2)
    exact .head (same.symm.trans advances) (ih next)

theorem finishes_congr {root : String} {last : Traversal} (alike : Alike first second)
    (covers : Covers first second last.nodes) (directories : first.index.directories = second.index.directories)
    (finishes : Finishes first root last) : Finishes second root last := by
  have started : start first.index root = start second.index root := by
    simp only [start, Traversal.initial, directories]
  have runs := runs_congr alike covers (.initial first first.index root) finishes.runs
  rw [started] at runs
  exact ⟨runs, by simp [step, finishes.idle]⟩

private theorem directories_of_added {files : FileSystem} {suffixes : List String} {directory : IncludeDirectory}
    {before after : HeaderIndex} (added : (HeaderIndex.addDirectory files suffixes before directory).2 = .ok after) :
    after.directories = before.directories ++ [Path.absolute files.currentPath directory.path] := by
  simp only [HeaderIndex.addDirectory] at added
  split at added
  · cases added
  · split at added
    · cases added
    · rw [← Except.ok.inj added]

/-- The indexed directories are the declared ones, whatever is below them. -/
theorem directories_of_indexed {files : FileSystem} {suffixes : List String} {directories : List IncludeDirectory}
    {before after : HeaderIndex}
    (indexed : (HeaderIndex.addDirectories files suffixes before directories).2 = .ok after) :
    after.directories = before.directories ++ directories.map fun directory =>
      Path.absolute files.currentPath directory.path := by
  induction directories generalizing before with
  | nil =>
    simp only [HeaderIndex.addDirectories, Except.ok.injEq] at indexed
    simp [indexed]
  | cons directory rest ih =>
    simp only [HeaderIndex.addDirectories] at indexed
    rcases added : HeaderIndex.addDirectory files suffixes before directory with ⟨told, refusal | middle⟩
    · simp [added] at indexed
    · simp only [added] at indexed
      have early := directories_of_added (congrArg Prod.snd added)
      rw [ih indexed, early]
      simp

/-- Two file systems that agree on the files of a graph and on the probes next to its headers have the same graph,
if their indexes know the same names. -/
theorem build_precise {here : List String} {entries others : Table (List String) Entry} {root : String}
    {directories : List IncludeDirectory} {options : Options} {index known : HeaderIndex} {graph : Graph}
    (indexed : (HeaderIndex.build ⟨here, entries⟩ options.headerSuffixes directories).2 = .ok index)
    (other : (HeaderIndex.build ⟨here, others⟩ options.headerSuffixes directories).2 = .ok known)
    (lookups : ∀ name, index.find? name = known.find? name)
    (built : (Graph.build ⟨here, entries⟩ root directories options).2 = .ok graph)
    (reads : ∀ path ∈ graph.nodes.keys, FileSystem.read ⟨here, entries⟩ path = FileSystem.read ⟨here, others⟩ path)
    (probes : ∀ path node, graph.nodes.find? path = some node → node.kind = .header → node.isPresent = true →
      ∀ suffix ∈ options.companionSuffixes, FileSystem.isFile ⟨here, entries⟩ (companionPath path suffix) =
        FileSystem.isFile ⟨here, others⟩ (companionPath path suffix)) :
    (Graph.build ⟨here, others⟩ root directories options).2 = .ok graph := by
  obtain ⟨found, last, same, finishes, rfl⟩ := build_ok_iff.mp built
  obtain rfl := Except.ok.inj (same.symm.trans indexed)
  have alike : Alike ⟨⟨here, entries⟩, found, options⟩ ⟨⟨here, others⟩, known, options⟩ := ⟨rfl, rfl, lookups⟩
  have declared : found.directories = known.directories :=
    (directories_of_indexed indexed).trans (directories_of_indexed other).symm
  exact build_ok_iff.mpr ⟨known, last, other, finishes_congr alike ⟨reads, probes⟩ declared finishes, rfl⟩

/-- The knot beside files that it does not include, one of which includes it. -/
def besideKnot : Table (List String) Entry :=
  ⟨knot.entries.entries ++ [(["w", "z.h"], textEntry "#include \"a.h\"\n"), (["w", "i", "b.txt"], .locked)]⟩

private theorem besideKnot_reads : ∀ path ∈ knotGraph.nodes.keys,
    FileSystem.read ⟨["w"], knot.entries⟩ path = FileSystem.read ⟨["w"], besideKnot⟩ path := by decide +kernel

private theorem besideKnot_probes : ∀ entry ∈ knotGraph.nodes.entries, ∀ suffix ∈ [".cpp"],
    FileSystem.isFile ⟨["w"], knot.entries⟩ (companionPath entry.1 suffix) =
      FileSystem.isFile ⟨["w"], besideKnot⟩ (companionPath entry.1 suffix) := by decide +kernel

theorem build_precise_besideKnot : besideKnot ≠ knot.entries ∧
    (HeaderIndex.build ⟨["w"], besideKnot⟩ [".h"] [⟨"i", "x"⟩]).2 = .ok knotIndex ∧
    (Graph.build ⟨["w"], besideKnot⟩ "m.cpp" [⟨"i", "x"⟩] {}).2 = .ok knotGraph := by
  have indexed : (HeaderIndex.build ⟨["w"], besideKnot⟩ [".h"] [⟨"i", "x"⟩]).2 = .ok knotIndex := by decide +kernel
  refine ⟨by decide +kernel, indexed, ?_⟩
  refine build_precise knot_indexed indexed (fun _ => rfl) knot_built besideKnot_reads ?_
  intro path node found _ _ suffix member
  exact besideKnot_probes (path, node) (Table.mem_of_lookup found) suffix member

end IncludeGraph.Proofs.Precision
