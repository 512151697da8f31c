import IncludeGraph.Proofs.WorklistInvariant

/-! Waiting files read in any order. The invariant does not depend on the order of the worklist, and neither does
the rank that every step takes down. -/

namespace IncludeGraph.Proofs.Reordering
open Traversal WorklistInvariant

def reordered (state : Traversal) (order : List Item) : Traversal := { state with worklist := order }

/-- Any of the waiting files is read next. The run itself always takes the one that was queued last. -/
def Reorders (around : Surroundings) (before after : Traversal) : Prop :=
  ∃ order, order.Perm before.worklist ∧ step around (reordered before order) = .next after

variable {around : Surroundings} {root : String} {before after : Traversal} {order : List Item}

theorem invariant_reordered (valid : Invariant around root before) (same : order.Perm before.worklist) :
    Invariant around root (reordered before order) := by
  refine ⟨⟨valid.distinct, ?_, ?_, valid.queued⟩, valid.rooted, valid.settled, valid.visited, valid.introduced,
    valid.ascends, valid.systems⟩
  · exact same.nodup_iff.mpr valid.once
  · intro item
    exact same.mem_iff.trans (valid.waits item)

theorem invariant_run (valid : Invariant around root before)
    (runs : Relation.ReflTransGen (Reorders around) before after) : Invariant around root after := by
  induction runs with
  | refl => exact valid
  | tail _ reorders ih =>
    obtain ⟨order, same, stepped⟩ := reorders
    exact ((invariant_reordered ih same).step stepped).1

/-- No order of reading goes on forever. -/
theorem reorders_wellFounded (around : Surroundings) :
    WellFounded fun after before => Reorders around before after := by
  refine Subrelation.wf ?_ (InvImage.wf Traversal.rank (Prod.lex Nat.lt_wfRel Nat.lt_wfRel).wf)
  intro after before ⟨order, same, stepped⟩
  have equal : (reordered before order).rank = before.rank := by
    simp only [rank, reordered, same.length_eq]
    rfl
  have smaller := step_rank stepped
  rw [equal] at smaller
  exact smaller

end IncludeGraph.Proofs.Reordering
