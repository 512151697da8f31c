import IncludeGraph.Proofs.WorklistInvariant
import Mathlib.Data.Set.Finite.Basic

/-! The loop ends, also where links make one file openable under ever longer paths. The items taken so far and those
that wait are together the nodes met, each once, so that no path is read a second time; only a path that opens adds
nodes; and the paths short enough to be opened are finitely many. -/

namespace IncludeGraph.Proofs.Termination
open Traversal Growth Resolution Turns WorklistInvariant

/-- A number of turns of the loop, with the items that they take from the worklist. -/
inductive Takes (around : Surroundings) (first : Traversal) : List Item → Traversal → Prop where
  | none : Takes around first [] first
  | more {items item rest before after} (early : Takes around first items before)
      (taken : before.worklist = item :: rest) (stepped : step around before = .next after) :
    Takes around first (items ++ [item]) after

variable {around : Surroundings} {root path : String} {node new : Node} {gain : Gain}
  {first before middle after state : Traversal} {items : List Item}

theorem Takes.runs (takes : Takes around first items state) : Relation.ReflTransGen (Advances around) first state := by
  induction takes with
  | none => exact .refl
  | more _ _ stepped ih => exact ih.tail stepped

/-- Every run is a number of turns. -/
theorem exists_takes (runs : Relation.ReflTransGen (Advances around) first state) :
    ∃ items, Takes around first items state := by
  induction runs with
  | refl => exact ⟨[], .none⟩
  | @tail before after _ stepped ih =>
    obtain ⟨items, takes⟩ := ih
    cases list : before.worklist with
    | nil =>
      have done : step around before = .done := by simp [step, list]
      have next : step around before = .next after := stepped
      rw [done] at next
      cases next
    | cons item rest => exact ⟨items ++ [item], .more takes list stepped⟩

/-- A turn takes one node, and queues those that it adds. -/
private theorem turn_perm (turn : Turn around path node new gain before middle after)
    (law : (items ++ before.worklist).Perm (before.nodes.keys.map Item.listed)) :
    (items ++ [Item.listed path] ++ after.worklist).Perm (after.nodes.keys.map Item.listed) := by
  rw [turn.first] at law
  rw [turn.worklist, turn.keys, List.map_append, List.map_map]
  have moved : ∀ queued : List Item, (items ++ [Item.listed path] ++ (queued.reverse ++ before.worklist.tail)).Perm
      (items ++ Item.listed path :: before.worklist.tail ++ queued) := by
    intro queued
    simp only [List.append_assoc, List.cons_append, List.nil_append]
    have exchanged := (queued.reverse_perm.append_right before.worklist.tail).trans List.perm_append_comm
    exact (exchanged.cons _).append_left items
  exact (moved _).trans (law.append (.refl _))

/-- The items taken and the items that wait are the nodes met. -/
theorem Takes.perm (takes : Takes around (start around.index root) items state) :
    (items ++ state.worklist).Perm (state.nodes.keys.map Item.listed) := by
  induction takes with
  | none => exact .refl _
  | more early taken stepped ih =>
    obtain ⟨path, node, new, gain, middle, turn⟩ := turn_of_runs early.runs stepped
    obtain rfl := (List.cons.inj (taken.symm.trans turn.first)).1
    exact turn_perm turn ih

/-- A path that does not open adds no node. -/
private theorem opens_of_keys (turn : Turn around path node new gain before middle after)
    (more : after.nodes.keys ≠ before.nodes.keys) : ∃ bytes, around.files.read path = .ok bytes := by
  cases turn.reads with
  | missing absent grows => exact absurd (by simpa using turn.keys) more
  | opened found opens => exact ⟨_, found⟩

theorem openable_finite (files : FileSystem) : {path | ∃ bytes, files.read path = .ok bytes}.Finite := by
  apply (List.finite_toSet shortPaths).subset
  intro path opens
  obtain ⟨bytes, opened⟩ := opens
  exact mem_shortPaths_of_read opened

/-- The loop of a traversal ends, and why it does: no path is taken twice, only a path that opens brings in others,
and finitely many paths can be opened. -/
structure Terminates (around : Surroundings) (root : String) : Prop where
  /-- After some number of turns nothing waits or a step fails, and that is what comes of the traversal. -/
  ends : ∃ items last, Takes around (start around.index root) items last ∧
    ((step around last = .done ∧ Traversal.run around (.initial around.index) root = (last, none)) ∨
      ∃ final failure, step around last = .failed final failure ∧
        Traversal.run around (.initial around.index) root = (final, some failure))
  /-- What was taken and what waits are the paths met, each once. -/
  once : ∀ items state, Takes around (start around.index root) items state →
    (items ++ state.worklist).Perm (state.nodes.keys.map Item.listed) ∧ (items ++ state.worklist).Nodup
  opens : ∀ items path rest before after, Takes around (start around.index root) items before →
    before.worklist = .listed path :: rest → step around before = .next after →
    after.nodes.keys ≠ before.nodes.keys → ∃ bytes, around.files.read path = .ok bytes
  finite : {path | ∃ bytes, around.files.read path = .ok bytes}.Finite

/-- Every traversal ends, whatever the files, the index and the root are. -/
theorem traversal_terminates (around : Surroundings) (root : String) : Terminates around root := by
  have valid := Invariant.initial around around.index root
  refine ⟨?_, ?_, ?_, openable_finite around.files⟩
  · obtain ⟨last, runs, ending⟩ := exhaust_cases around (start around.index root)
    obtain ⟨items, takes⟩ := exists_takes runs
    exact ⟨items, last, takes, ending⟩
  · intro items state takes
    have law := takes.perm
    have distinct := (valid.run takes.runs).1.distinct
    refine ⟨law, law.nodup_iff.mpr (distinct.map ?_)⟩
    intro path other same
    exact Item.listed.inj same
  · intro items path rest before after takes first stepped more
    obtain ⟨taken, node, new, gain, middle, turn⟩ := (valid.run takes.runs).1.toOrderly.turn stepped
    obtain rfl := Item.listed.inj (List.cons.inj (first.symm.trans turn.first)).1
    exact opens_of_keys turn more

end IncludeGraph.Proofs.Termination
