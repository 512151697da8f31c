import IncludeGraph.Proofs.Precision
import IncludeGraph.Proofs.Termination
import IncludeGraph.Proofs.Traces

/-! What is true whenever the loop begins anew. The worklist holds the queued files of the table, each once, and all
other files are resolved; system includes never wait. So no step passes over a node or finds one that should not wait,
and in the end every file was opened, and none a second time. -/

namespace IncludeGraph.Proofs.QueueDiscipline
open Traversal Resolution Turns WorklistInvariant Builds Closure Precision Termination Traces

def opened (state : Traversal) : List String :=
  match state.worklist with
  | [] => []
  | item :: _ =>
    match state.node? item with
    | some { status := .queued, target := .file own _, .. } => [item.readPath own]
    | _ => []

/-- What holds whenever the loop looks at its worklist: the worklist and the tables agree, the next step opens the
first file that waits, and nothing but this file decides about it. -/
structure AtHead (around : Surroundings) (state : Traversal) : Prop where
  queued : ∀ item ∈ state.worklist, ∃ path node, item = .listed path ∧ state.nodes.find? path = some node ∧
    node.target = .file path true ∧ node.status = .queued
  once : state.worklist.Nodup
  settled : ∀ path node, state.nodes.find? path = some node →
    (.listed path ∈ state.worklist ∧ node.status = .queued ∧ node.children = none) ∨
      (.listed path ∉ state.worklist ∧ node.status = .resolved)
  systems : ∀ name node, state.systems.find? name = some node → node.status = .created ∧ node.children = none ∧
    ∀ item ∈ state.worklist, state.node? item ≠ some node
  /-- While anything waits, the next step opens a file: nothing is passed over. -/
  opens : state.worklist ≠ [] → ∃ path, opened state = [path]
  /-- The next step asks for the content of no other file. -/
  asks : ∀ others, Alike around others → (∀ path ∈ opened state, around.files.read path = others.files.read path) →
    (∀ path, around.files.isFile path = others.files.isFile path) → step around state = step others state
  /-- The next step fails for no other reason than that this file is refused. -/
  fails : ∀ last failure, step around state = .failed last failure → ∃ path fault, opened state = [path] ∧
    around.files.read path = .error fault ∧ (failure = .unreadable path fault ∨ failure = .nullByte)

variable {around : Surroundings} {root path : String} {node : Node} {rest : List Item} {state last : Traversal}
  {paths : List String}

theorem opened_of_waiting (list : state.worklist = .listed path :: rest) (found : state.nodes.find? path = some node)
    (waiting : Waiting path node) : opened state = [path] := by
  obtain ⟨kind, target, status, parent, children⟩ := node
  obtain ⟨rfl, rfl, rfl⟩ := waiting
  simp only [opened, list, node?, found, Item.readPath]

theorem opened_of_turn {new : Node} {gain : Growth.Gain} {before middle after : Traversal}
    (turn : Turn around path node new gain before middle after) : opened before = [path] :=
  opened_of_waiting turn.first turn.found turn.waiting

theorem opened_of_idle (idle : state.worklist = []) : opened state = [] := by
  simp only [opened, idle]

private theorem step_congr_of_opened {others : Surroundings} (alike : Alike around others) (orderly : Orderly state)
    (reads : ∀ path ∈ opened state, around.files.read path = others.files.read path)
    (probes : ∀ path, around.files.isFile path = others.files.isFile path) :
    step around state = step others state := by
  cases list : state.worklist with
  | nil => simp [step, list]
  | cons item rest =>
    obtain ⟨path, node, rfl, found, queued⟩ := (orderly.waits item).mp (by simp [list])
    have waiting := orderly.queued path node found queued
    have same : SameAnswers around others path node.kind :=
      ⟨reads path (by simp [opened_of_waiting list found waiting]), fun _ _ _ _ => probes _⟩
    simp only [step, list, node?, found, waiting.status, process_congr alike waiting.target same]

private theorem fails_of_refused {failure : Failure} (orderly : Orderly state)
    (failed : step around state = .failed last failure) : ∃ path fault, opened state = [path] ∧
      around.files.read path = .error fault ∧ (failure = .unreadable path fault ∨ failure = .nullByte) := by
  rcases orderly.step_cases around with
    ⟨-, done⟩ | ⟨path, rest, node, list, found, waiting, ⟨_, -, next⟩ | ⟨final, cause, processed, stopped⟩⟩
  · rw [done] at failed
    cases failed
  · rw [next] at failed
    cases failed
  · obtain ⟨rfl, rfl⟩ := Step.failed.inj (stopped.symm.trans failed)
    obtain ⟨fault, refused, -, -, reason⟩ := process_fails waiting.target processed
    refine ⟨path, fault, opened_of_waiting list found waiting, refused, ?_⟩
    split at reason
    · exact Or.inr reason
    · exact Or.inl reason

private theorem atHead_of_invariant (valid : Invariant around root state) : AtHead around state := by
  have waits : ∀ item ∈ state.worklist, ∃ path node, item = .listed path ∧ state.nodes.find? path = some node ∧
      Waiting path node := by
    intro item member
    obtain ⟨path, node, listed, found, queued⟩ := (valid.waits item).mp member
    exact ⟨path, node, listed, found, valid.queued path node found queued⟩
  refine ⟨?_, valid.once, ?_, ?_, ?_, fun _ alike => step_congr_of_opened alike valid.toOrderly,
    fun _ _ => fails_of_refused valid.toOrderly⟩
  · intro item member
    obtain ⟨path, node, listed, found, waiting⟩ := waits item member
    exact ⟨path, node, listed, found, waiting.target, waiting.status⟩
  · intro path node found
    rcases valid.settled path node found with queued | resolved
    · exact Or.inl ⟨(valid.waits _).mpr ⟨path, node, rfl, found, queued⟩, queued,
        (valid.queued path node found queued).children⟩
    · refine Or.inr ⟨?_, resolved⟩
      intro member
      obtain ⟨other, known, listed, there, waiting⟩ := waits _ member
      obtain rfl := Item.listed.inj listed
      obtain rfl := Option.some.inj (there.symm.trans found)
      cases waiting.status.symm.trans resolved
  · intro name node found
    -- What waits is queued, and a system include never is.
    obtain ⟨parent, _, _, rfl, -⟩ := valid.systems name node found
    refine ⟨rfl, rfl, ?_⟩
    intro item member same
    obtain ⟨path, known, rfl, there, waiting⟩ := waits item member
    obtain rfl := Option.some.inj (there.symm.trans same)
    cases waiting.status
  · intro waiting
    obtain ⟨item, rest, list⟩ := List.exists_cons_of_ne_nil waiting
    obtain ⟨path, node, rfl, found, waiting⟩ := waits item (by simp [list])
    exact ⟨path, opened_of_waiting list found waiting⟩

/-- A step takes the item of the file that it opens. -/
private theorem takes_of_trace (trace : Trace opened around (start around.index root) paths state) :
    Takes around (start around.index root) (paths.map Item.listed) state := by
  induction trace with
  | none => exact .none
  | @more paths before after early stepped ih =>
    obtain ⟨path, node, new, gain, middle, turn⟩ := turn_of_runs early.runs stepped
    rw [List.map_append, opened_of_turn turn]
    exact .more ih turn.first stepped

/-- When nothing waits any more, the files opened are the nodes, each once. -/
theorem opened_perm (trace : Trace opened around (start around.index root) paths last)
    (idle : last.worklist = []) : paths.Perm last.nodes.keys := by
  have law := (takes_of_trace trace).perm
  rw [idle, List.append_nil] at law
  exact (List.map_perm_map_iff fun _ _ => Item.listed.inj).mp law

section
variable {files : FileSystem} {directories : List IncludeDirectory} {options : Options} {index : HeaderIndex}

/-- A build that fails once the directories are indexed fails with a step of the loop. -/
theorem exists_failed_step (indexed : (HeaderIndex.build files options.headerSuffixes directories).2 = .ok index)
    {failure : Failure} (failed : (Graph.build files root directories options).2 = .error (.traversal failure)) :
    ∃ last final, Relation.ReflTransGen (Advances ⟨files, index, options⟩)
      (start index (Path.absolute files.currentPath root)) last ∧
      step ⟨files, index, options⟩ last = .failed final failure := by
  obtain ⟨_, ended⟩ := (build_fails_iff indexed).mp failed
  obtain ⟨last, runs, ⟨-, same⟩ | ⟨final, cause, stepped, same⟩⟩ :=
    exhaust_cases ⟨files, index, options⟩ (start index (Path.absolute files.currentPath root))
  · cases same.symm.trans ended
  · obtain rfl := Option.some.inj (Prod.mk.inj (same.symm.trans ended)).2
    exact ⟨last, final, runs, stepped⟩

/-- The loop processes queued files alone, whatever it builds, and opens every file of a finished graph once. -/
theorem build_queue (indexed : (HeaderIndex.build files options.headerSuffixes directories).2 = .ok index) :
    (∀ state, Relation.ReflTransGen (Advances ⟨files, index, options⟩)
      (start index (Path.absolute files.currentPath root)) state → AtHead ⟨files, index, options⟩ state) ∧
    (∀ failure, (Graph.build files root directories options).2 = .error (.traversal failure) →
      (∀ node, failure ≠ .notQueued node) ∧ ∀ name, failure ≠ .systemQueued name) ∧
    ∀ graph, (Graph.build files root directories options).2 = .ok graph →
      (∃ paths last, Trace opened ⟨files, index, options⟩ (start index (Path.absolute files.currentPath root)) paths
          last ∧ step ⟨files, index, options⟩ last = .done ∧
          graph = Graph.ofTraversal (Path.absolute files.currentPath root) last ∧
          paths.Perm graph.nodes.keys ∧ paths.Nodup) ∧
        ∀ path node, graph.nodes.find? path = some node → node.status = .resolved := by
  have started := Invariant.initial ⟨files, index, options⟩ index (Path.absolute files.currentPath root)
  refine ⟨fun state runs => atHead_of_invariant (started.run runs).1, ?_, ?_⟩
  · intro failure failed
    obtain ⟨last, final, runs, stepped⟩ := exists_failed_step indexed failed
    obtain ⟨path, fault, -, -, rfl | rfl⟩ := fails_of_refused (started.run runs).1.toOrderly stepped
    · exact ⟨nofun, nofun⟩
    · exact ⟨nofun, nofun⟩
  intro graph built
  obtain ⟨found, last, same, finishes, rfl⟩ := build_ok_iff.mp built
  obtain rfl := Except.ok.inj (same.symm.trans indexed)
  obtain ⟨paths, trace⟩ := exists_trace opened finishes.runs
  have all := opened_perm trace finishes.idle
  refine ⟨⟨paths, last, trace, finishes.done, rfl, all, all.nodup_iff.mpr finishes.invariant.distinct⟩, ?_⟩
  intro path node there
  exact resolved_of_idle finishes.invariant finishes.idle there

theorem build_queue_knot : (Graph.build knot "m.cpp" [⟨"i", "x"⟩] {}).2 = .ok knotGraph ∧
    AtHead ⟨knot, knotIndex, {}⟩ (start knotIndex "/w/m.cpp") ∧
    ∃ paths last, Trace opened ⟨knot, knotIndex, {}⟩ (start knotIndex "/w/m.cpp") paths last ∧
      paths.Perm ["/w/m.cpp", "/w/a.h", "/w/i/b.h", "/w/a.cpp", "/w/c.h"] := by
  have root : Path.absolute knot.currentPath "m.cpp" = "/w/m.cpp" := by decide +kernel
  obtain ⟨heads, -, ends⟩ := @build_queue "m.cpp" knot _ {} _ knot_indexed
  obtain ⟨⟨paths, last, trace, -, -, all, -⟩, -⟩ := ends knotGraph knot_built
  rw [root] at heads trace
  exact ⟨knot_built, heads _ .refl, paths, last, trace, all⟩

end

end IncludeGraph.Proofs.QueueDiscipline
