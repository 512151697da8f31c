import IncludeGraph.Traversal.Rank

/-! Whole traversals: steps are taken until the worklist is empty or a step fails. -/

namespace IncludeGraph.Traversal

def exhaust (around : Surroundings) (state : Traversal) : Traversal × Option Failure :=
  match _stepped : step around state with
  | .done => (state, none)
  | .failed last failure => (last, some failure)
  | .next following => exhaust around following
termination_by state.rank
decreasing_by exact step_rank ‹_›

section
variable {around : Surroundings} {state last : Traversal} {failure : Failure}

theorem exhaust_of_done (stepped : step around state = .done) : exhaust around state = (state, none) := by
  rw [exhaust]
  split
  · rfl
  next failed => cases failed.symm.trans stepped
  next next_ => cases next_.symm.trans stepped

theorem exhaust_of_failed (stepped : step around state = .failed last failure) :
    exhaust around state = (last, some failure) := by
  rw [exhaust]
  split
  next done => cases done.symm.trans stepped
  next failed =>
    obtain ⟨rfl, rfl⟩ := Step.failed.inj (failed.symm.trans stepped)
    rfl
  next next_ => cases next_.symm.trans stepped

theorem exhaust_of_next {following : Traversal} (stepped : step around state = .next following) :
    exhaust around state = exhaust around following := by
  rw [exhaust]
  split
  next done => cases done.symm.trans stepped
  next failed => cases failed.symm.trans stepped
  next next_ => rw [Step.next.inj (next_.symm.trans stepped)]

end

/-- The end, if it is reached within the given number of steps. -/
def endWithin (around : Surroundings) : Nat → Traversal → Option (Traversal × Option Failure)
  | 0, _ => none
  | steps + 1, state =>
    match step around state with
    | .done => some (state, none)
    | .failed last failure => some (last, some failure)
    | .next following => endWithin around steps following

theorem exhaust_of_endWithin {around : Surroundings} {steps : Nat} {state : Traversal}
    {ending : Traversal × Option Failure} (reached : endWithin around steps state = some ending) :
    exhaust around state = ending := by
  induction steps generalizing state with
  | zero => simp [endWithin] at reached
  | succ steps ih =>
    unfold exhaust
    split
    next stepped => simpa [endWithin, stepped] using reached
    next stepped => simpa [endWithin, stepped] using reached
    next stepped => exact ih (by simpa only [endWithin, stepped] using reached)

/-- The path of the next node, if it is a header whose file opens. -/
def nextHeader? (around : Surroundings) (state : Traversal) : Option String :=
  match state.worklist with
  | [] => none
  | item :: _ =>
    match state.node? item with
    | some { kind := .header, target := .file own _, status := .queued, .. } =>
      let path := item.readPath own
      if (around.files.read path).isOk then some path else none
    | _ => none

/-- The first header whose file opens, and the state in which its turn comes. -/
def firstHeader? (around : Surroundings) (state : Traversal) : Option (String × Traversal) :=
  match nextHeader? around state with
  | some path => some (path, state)
  | none =>
    match _stepped : step around state with
    | .next following => firstHeader? around following
    | _ => none
termination_by state.rank
decreasing_by exact step_rank ‹_›

section
variable {around : Surroundings} {state : Traversal}

theorem firstHeader?_of_next {following : Traversal} (none : nextHeader? around state = none)
    (stepped : step around state = .next following) : firstHeader? around state = firstHeader? around following := by
  rw [firstHeader?, none]
  dsimp only
  split
  next next_ => rw [Step.next.inj (next_.symm.trans stepped)]
  next other => exact absurd stepped (other _)

theorem firstHeader?_of_end (none : nextHeader? around state = none)
    (ended : ∀ following, step around state ≠ .next following) : firstHeader? around state = .none := by
  rw [firstHeader?, none]
  dsimp only
  split
  next next_ => exact absurd next_ (ended _)
  · rfl

end

def run (around : Surroundings) (state : Traversal) (root : String) : Traversal × Option Failure :=
  exhaust around (state.add .source root none)

end IncludeGraph.Traversal
