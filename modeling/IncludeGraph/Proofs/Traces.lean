import IncludeGraph.Proofs.WorklistInvariant

/-! Runs of the loop with something told at every step, in the order of the steps. -/

namespace IncludeGraph.Proofs.Traces
open Traversal WorklistInvariant

/-- A run from a first state to a last one, with all that is told of the states in which its steps are taken. -/
inductive Trace {α : Type} (told : Traversal → List α) (around : Surroundings) (first : Traversal) :
    List α → Traversal → Prop where
  | none : Trace told around first [] first
  | more {items before after} (early : Trace told around first items before)
      (stepped : step around before = .next after) : Trace told around first (items ++ told before) after

variable {α : Type} {told : Traversal → List α} {around : Surroundings} {first last : Traversal} {items : List α}

theorem Trace.runs (trace : Trace told around first items last) :
    Relation.ReflTransGen (Advances around) first last := by
  induction trace with
  | none => exact .refl
  | more _ stepped ih => exact ih.tail stepped

theorem exists_trace (told : Traversal → List α) (runs : Relation.ReflTransGen (Advances around) first last) :
    ∃ items, Trace told around first items last := by
  induction runs with
  | refl => exact ⟨[], .none⟩
  | tail _ stepped ih =>
    obtain ⟨items, trace⟩ := ih
    exact ⟨_, .more trace stepped⟩

end IncludeGraph.Proofs.Traces
