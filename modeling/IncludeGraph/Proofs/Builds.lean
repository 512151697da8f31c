import IncludeGraph.Graph.Build
import IncludeGraph.Proofs.WorklistInvariant

/-! A build is the run of the loop to its end, after the declared directories were indexed. -/

namespace IncludeGraph.Proofs.Builds
open Traversal WorklistInvariant

/-- The loop reaches a state in which nothing waits. A graph is built exactly if this happens, so that what holds of
every such state holds of every graph. -/
structure Finishes (around : Surroundings) (root : String) (last : Traversal) : Prop where
  runs : Relation.ReflTransGen (Advances around) (start around.index root) last
  done : step around last = .done

variable {around : Surroundings} {root : String} {last : Traversal}

theorem exhaust_of_runs {state : Traversal} (runs : Relation.ReflTransGen (Advances around) state last) :
    exhaust around state = exhaust around last := by
  induction runs with
  | refl => rfl
  | tail _ advances ih =>
    rw [ih, exhaust]
    split
    next done => exact absurd (advances.symm.trans done) (by simp)
    next failed => exact absurd (advances.symm.trans failed) (by simp)
    next following stepped => rw [Step.next.inj (advances.symm.trans stepped)]

theorem Finishes.exhaust_eq (finishes : Finishes around root last) :
    exhaust around (start around.index root) = (last, none) := by
  rw [exhaust_of_runs finishes.runs, exhaust]
  split
  · rfl
  next failed => exact absurd (finishes.done.symm.trans failed) (by simp)
  next stepped => exact absurd (finishes.done.symm.trans stepped) (by simp)

theorem finishes_of_exhaust (ended : exhaust around (start around.index root) = (last, none)) :
    Finishes around root last := by
  obtain ⟨state, runs, ⟨done, same⟩ | ⟨_, _, -, same⟩⟩ := exhaust_cases around (start around.index root)
  · obtain rfl := (Prod.mk.inj (same.symm.trans ended)).1
    exact ⟨runs, done⟩
  · cases (Prod.mk.inj (same.symm.trans ended)).2

theorem Finishes.invariant (finishes : Finishes around root last) : Invariant around root last :=
  invariant_of_runs finishes.runs

theorem Finishes.idle (finishes : Finishes around root last) : last.worklist = [] :=
  finishes.invariant.toOrderly.idle_of_done finishes.done

/-- Every state of a run is on the way to its end. -/
theorem reaches_end (finishes : Finishes around root last)
    {state : Traversal} (runs : Relation.ReflTransGen (Advances around) (start around.index root) state) :
    Relation.ReflTransGen (Advances around) state last := by
  -- A step leads to one state, so that one of two runs goes on where the other stops.
  have unique : Relator.RightUnique (Advances around) :=
    fun _ _ _ one other => Step.next.inj (one.symm.trans other)
  rcases runs.total_of_right_unique unique finishes.runs with further | back
  · exact further
  · rcases back.cases_head with same | ⟨next, stepped, -⟩
    · rw [same]
    · cases finishes.done.symm.trans stepped

/-- Where nothing waits, every node was read. -/
theorem resolved_of_idle (valid : Invariant around root last) (idle : last.worklist = []) {path : String} {node : Node}
    (found : last.nodes.find? path = some node) : node.status = .resolved := by
  rcases valid.settled path node found with queued | resolved
  · have waits := (valid.waits (.listed path)).mpr ⟨path, node, rfl, found, queued⟩
    rw [idle] at waits
    cases waits
  · exact resolved

section
variable {files : FileSystem} {root : String} {directories : List IncludeDirectory} {options : Options} {graph : Graph}

theorem build_ok_iff : (Graph.build files root directories options).2 = .ok graph ↔
    ∃ index last, (HeaderIndex.build files options.headerSuffixes directories).2 = .ok index ∧
      Finishes ⟨files, index, options⟩ (Path.absolute files.currentPath root) last ∧
      graph = Graph.ofTraversal (Path.absolute files.currentPath root) last := by
  rcases indexed : HeaderIndex.build files options.headerSuffixes directories with ⟨told, refusal | index⟩
  · simp [Graph.build, indexed]
  · rcases ended : exhaust ⟨files, index, options⟩ (start index (Path.absolute files.currentPath root)) with
      ⟨last, none | failure⟩
    all_goals
      have run : Traversal.run ⟨files, index, options⟩ (.initial index) (Path.absolute files.currentPath root) = _ :=
        ended
      simp only [Graph.build, indexed, run]
    · constructor
      · intro same
        exact ⟨index, last, rfl, finishes_of_exhaust ended, (Except.ok.inj same).symm⟩
      · rintro ⟨other, final, same, finishes, rfl⟩
        obtain rfl := Except.ok.inj same
        rw [(Prod.mk.inj (ended.symm.trans finishes.exhaust_eq)).1]
    · constructor
      · intro same
        cases same
      · rintro ⟨other, final, same, finishes, rfl⟩
        obtain rfl := Except.ok.inj same
        cases (Prod.mk.inj (ended.symm.trans finishes.exhaust_eq)).2

theorem build_refused_iff {refusal : HeaderIndex.Refusal} :
    (Graph.build files root directories options).2 = .error (.index refusal) ↔
      (HeaderIndex.build files options.headerSuffixes directories).2 = .error refusal := by
  rcases indexed : HeaderIndex.build files options.headerSuffixes directories with ⟨told, other | index⟩
  · simp [Graph.build, indexed]
  · rcases run : Traversal.run ⟨files, index, options⟩ (.initial index) (Path.absolute files.currentPath root) with
      ⟨last, none | failure⟩
    all_goals simp [Graph.build, indexed, run]

theorem build_fails_iff {index : HeaderIndex} {failure : Failure}
    (indexed : (HeaderIndex.build files options.headerSuffixes directories).2 = .ok index) :
    (Graph.build files root directories options).2 = .error (.traversal failure) ↔
      ∃ last, exhaust ⟨files, index, options⟩ (start index (Path.absolute files.currentPath root)) =
        (last, some failure) := by
  obtain ⟨told, built⟩ : ∃ told, HeaderIndex.build files options.headerSuffixes directories = (told, .ok index) :=
    ⟨_, Prod.ext rfl indexed⟩
  rcases ended : exhaust ⟨files, index, options⟩ (start index (Path.absolute files.currentPath root)) with
    ⟨last, none | cause⟩
  all_goals
    have run : Traversal.run ⟨files, index, options⟩ (.initial index) (Path.absolute files.currentPath root) = _ :=
      ended
    simp [Graph.build, built, run]

/-- A build whose loop ends within a number of steps. -/
theorem build_of_endWithin {index : HeaderIndex} (steps : Nat)
    (indexed : (HeaderIndex.build files options.headerSuffixes directories).2 = .ok index)
    (ended : (endWithin ⟨files, index, options⟩ steps (start index (Path.absolute files.currentPath root))).map
      (fun ending => (Graph.ofTraversal (Path.absolute files.currentPath root) ending.1, ending.2)) =
        some (graph, none)) :
    (Graph.build files root directories options).2 = .ok graph := by
  obtain ⟨⟨last, failure?⟩, reached, same⟩ := Option.map_eq_some_iff.mp ended
  obtain ⟨rfl, rfl⟩ := Prod.mk.inj same
  have ended := exhaust_of_endWithin reached
  exact build_ok_iff.mpr ⟨index, last, indexed, finishes_of_exhaust ended, rfl⟩

end

end IncludeGraph.Proofs.Builds
