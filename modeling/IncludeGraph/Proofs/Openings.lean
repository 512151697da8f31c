import IncludeGraph.Proofs.QueueDiscipline

/-! The files of a run in the order in which they are opened. The problems of a finished run are those of its files
one after the other, its include paths are their directories, and each file has one turn. -/

namespace IncludeGraph.Proofs.Openings
open Traversal Growth Resolution Turns WorklistInvariant Builds QueueDiscipline Traces

def problemsAt (files : FileSystem) (path : String) : List Diagnostic :=
  match files.read path with
  | .ok bytes => problemsOf path (Finding.scan (readText bytes))
  | .error .missing => [.missing path]
  | .error _ => []

variable {around : Surroundings} {root path : String} {node new : Node} {gain : Gain} {paths : List String}
  {files : FileSystem} {problem : Diagnostic} {before middle after state last : Traversal}

theorem problemsAt_of_missing (absent : files.read path = .error .missing) :
    problemsAt files path = [.missing path] := by
  simp only [problemsAt, absent]

theorem problemsAt_of_read {bytes : List UInt8} (opens : files.read path = .ok bytes) :
    problemsAt files path = problemsOf path (Finding.scan (readText bytes)) := by
  simp only [problemsAt, opens]

theorem mem_problemsOf {findings : List Finding} :
    problem ∈ problemsOf path findings ↔
      ∃ line text, (line, text) ∈ findings.filterMap Finding.malformed? ∧ problem = .malformed path line text := by
  simp [problemsOf, eq_comm]

theorem file_of_problemsAt (member : problem ∈ problemsAt files path) : problem.file = path := by
  unfold problemsAt at member
  split at member
  · obtain ⟨line, text, -, rfl⟩ := mem_problemsOf.mp member
    rfl
  · rw [List.mem_singleton.mp member]
    rfl
  · cases member

theorem reads_problems (reads : Reads around path node before after gain new) :
    gain.problems = problemsAt around.files path := by
  cases reads with
  | missing absent grows => rw [problemsAt_of_missing absent]
  | opened found opens => rw [opens.problems, problemsAt_of_read found]

/-- The problems of a run are those of the files that it opened, in this order. -/
theorem diagnostics_of_trace (trace : Trace opened around (start around.index root) paths state) :
    state.diagnostics = paths.flatMap (problemsAt around.files) := by
  induction trace with
  | none => rfl
  | @more paths before after early stepped ih =>
    obtain ⟨path, node, new, gain, middle, turn⟩ := turn_of_runs early.runs stepped
    rw [opened_of_turn turn, List.flatMap_append, List.flatMap_singleton, ← ih,
      turn.diagnostics, reads_problems turn.reads]

theorem mem_includePaths_of_trace (trace : Trace opened around (start around.index root) paths state) :
    path ∈ state.includePaths ↔ path ∈ around.index.directories ∨ ∃ other ∈ paths, Path.dirname other = path := by
  induction trace with
  | none =>
    have declared : (start around.index root).includePaths = around.index.directories := rfl
    simp [declared]
  | @more paths before after early stepped ih =>
    obtain ⟨reader, node, new, gain, middle, turn⟩ := turn_of_runs early.runs stepped
    rw [opened_of_turn turn, turn.mem_includePaths, ih]
    simp [or_and_right, exists_or, or_assoc, eq_comm]

/-- Every file that a run opens has its turn in the run. -/
theorem exists_turn (trace : Trace opened around (start around.index root) paths last) (member : path ∈ paths) :
    ∃ node new gain before middle after, Relation.ReflTransGen (Advances around) (start around.index root) before ∧
      step around before = .next after ∧ Turn around path node new gain before middle after ∧
      Relation.ReflTransGen (Advances around) after last := by
  induction trace with
  | none => cases member
  | @more paths before after early stepped ih =>
    obtain ⟨reader, node, new, gain, middle, turn⟩ := turn_of_runs early.runs stepped
    rw [opened_of_turn turn] at member
    rcases List.mem_append.mp member with old | latest
    · obtain ⟨node, new, gain, first, middle, second, runs, next, turn, further⟩ := ih old
      exact ⟨node, new, gain, first, middle, second, runs, next, turn, further.tail stepped⟩
    · obtain rfl := List.mem_singleton.mp latest
      exact ⟨node, new, gain, before, middle, after, early.runs, stepped, turn, .refl⟩

/-- A finished run opens the files of its graph, each once. -/
theorem exists_openings (finishes : Finishes around root last) :
    ∃ paths, Trace opened around (start around.index root) paths last ∧ paths.Perm last.nodes.keys ∧ paths.Nodup := by
  obtain ⟨paths, trace⟩ := exists_trace opened finishes.runs
  have all := opened_perm trace finishes.idle
  exact ⟨paths, trace, all, all.nodup_iff.mpr finishes.invariant.distinct⟩

/-- The problems of a file stand together, and none stand elsewhere. -/
theorem problems_together (trace : Trace opened around (start around.index root) paths state) (once : paths.Nodup)
    (member : path ∈ paths) : ∃ early late, state.diagnostics = early ++ problemsAt around.files path ++ late ∧
      ∀ problem ∈ early ++ late, problem.file ≠ path := by
  obtain ⟨first, rest, rfl⟩ := List.append_of_mem member
  have others : ∀ other ∈ first ++ rest, other ≠ path := by
    rintro other inside rfl
    exact (List.nodup_cons.mp (List.nodup_middle.mp once)).1 inside
  refine ⟨first.flatMap (problemsAt around.files), rest.flatMap (problemsAt around.files), ?_, ?_⟩
  · rw [diagnostics_of_trace trace, List.flatMap_append, List.flatMap_cons, List.append_assoc]
  · intro problem inside
    rw [← List.flatMap_append] at inside
    obtain ⟨other, there, noted⟩ := List.mem_flatMap.mp inside
    rw [file_of_problemsAt noted]
    exact others other there

end IncludeGraph.Proofs.Openings
