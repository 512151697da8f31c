import IncludeGraph.Proofs.Resolution

/-! One turn of the loop: the first waiting node is taken from the worklist, its file is read, and the node is
marked. All that later modules know about a step they know from its turn. -/

namespace IncludeGraph.Proofs.Turns
open Traversal Growth Resolution

structure Waiting (path : String) (node : Node) : Prop where
  target : node.target = .file path true
  status : node.status = .queued
  children : node.children = none

/-- The worklist holds the queued nodes, each once, and nothing else. In such a state neither of the assertions of the
loop can fail. -/
structure Orderly (state : Traversal) : Prop where
  distinct : state.nodes.keys.Nodup
  once : state.worklist.Nodup
  waits : ∀ item, item ∈ state.worklist ↔
    ∃ path node, item = .listed path ∧ state.nodes.find? path = some node ∧ node.status = .queued
  queued : ∀ path node, state.nodes.find? path = some node → node.status = .queued → Waiting path node

def taken (state : Traversal) (path : String) : Traversal :=
  ({ state with worklist := state.worklist.tail } : Traversal).usePath (Path.dirname path)

@[simp] theorem taken_nodes (state : Traversal) (path : String) : (taken state path).nodes = state.nodes := by
  simp [taken]

@[simp] theorem taken_systems (state : Traversal) (path : String) : (taken state path).systems = state.systems := by
  simp [taken]

@[simp] theorem taken_worklist (state : Traversal) (path : String) :
    (taken state path).worklist = state.worklist.tail := by
  simp [taken]

@[simp] theorem taken_diagnostics (state : Traversal) (path : String) :
    (taken state path).diagnostics = state.diagnostics := by
  simp [taken]

theorem mem_taken {state : Traversal} {path other : String} :
    other ∈ (taken state path).includePaths ↔ other ∈ state.includePaths ∨ other = Path.dirname path := mem_usePath

/-- One step of the loop that goes on: the first node of the worklist is taken off, its file is read, which gains what
it gains, and the node is marked. -/
structure Turn (around : Surroundings) (path : String) (node new : Node) (gain : Gain)
    (before middle after : Traversal) : Prop where
  first : before.worklist = .listed path :: before.worklist.tail
  found : before.nodes.find? path = some node
  waiting : Waiting path node
  reads : Reads around path node (taken before path) middle gain new
  marked : after = middle.setNode (.listed path) new

/-- Neither a resolved node nor one that was never queued is met on an orderly worklist. -/
theorem Orderly.step_cases {state : Traversal} (orderly : Orderly state) (around : Surroundings) :
    (state.worklist = [] ∧ step around state = .done) ∨
    ∃ path rest node, state.worklist = .listed path :: rest ∧ state.nodes.find? path = some node ∧ Waiting path node ∧
      ((∃ following, process around { state with worklist := rest } (.listed path) node = (following, none) ∧
        step around state = .next following) ∨
      ∃ last failure, process around { state with worklist := rest } (.listed path) node = (last, some failure) ∧
        step around state = .failed last failure) := by
  cases list : state.worklist with
  | nil => exact Or.inl ⟨rfl, by simp [step, list]⟩
  | cons item rest =>
    obtain ⟨path, node, rfl, found, queued⟩ := (orderly.waits item).mp (by simp [list])
    have waiting := orderly.queued path node found queued
    refine Or.inr ⟨path, rest, node, rfl, found, waiting, ?_⟩
    rcases worked : process around { state with worklist := rest } (.listed path) node with ⟨following, none | failure⟩
    · exact Or.inl ⟨following, rfl, by simp only [step, list, node?, found, waiting.status, worked]⟩
    · exact Or.inr ⟨following, failure, rfl, by simp only [step, list, node?, found, waiting.status, worked]⟩

theorem Orderly.turn {around : Surroundings} {state after : Traversal} (orderly : Orderly state)
    (stepped : step around state = .next after) :
    ∃ path node new gain middle, Turn around path node new gain state middle after := by
  rcases orderly.step_cases around with
    ⟨-, done⟩ | ⟨path, rest, node, list, found, waiting, ⟨following, processed, next⟩ | ⟨_, _, -, failed⟩⟩
  · rw [done] at stepped
    cases stepped
  · obtain rfl := Step.next.inj (next.symm.trans stepped)
    obtain ⟨gain, middle, new, reads, marked⟩ := process_reads waiting.target processed
    exact ⟨path, node, new, gain, middle, by simp [list], found, waiting, by simpa [taken, list] using reads, marked⟩
  · rw [failed] at stepped
    cases stepped

theorem Orderly.idle_of_done {around : Surroundings} {state : Traversal} (orderly : Orderly state)
    (stepped : step around state = .done) : state.worklist = [] := by
  rcases orderly.step_cases around with ⟨empty, -⟩ | ⟨_, _, _, _, _, _, ⟨_, -, next⟩ | ⟨_, _, -, failed⟩⟩
  · exact empty
  · rw [next] at stepped
    cases stepped
  · rw [failed] at stepped
    cases stepped

/-- A step fails on a file that neither opens nor is missing. -/
theorem Orderly.failed {around : Surroundings} {state last : Traversal} {failure : Failure} (orderly : Orderly state)
    (stepped : step around state = .failed last failure) :
    ∃ path node fault, state.nodes.find? path = some node ∧ Waiting path node ∧
      around.files.read path = .error fault ∧ fault ≠ .missing ∧ last.nodes = state.nodes ∧
      failure = if fault = .nullByte then .nullByte else .unreadable path fault := by
  rcases orderly.step_cases around with
    ⟨-, done⟩ | ⟨path, rest, node, list, found, waiting, ⟨_, -, next⟩ | ⟨final, cause, processed, failed⟩⟩
  · rw [done] at stepped
    cases stepped
  · rw [next] at stepped
    cases stepped
  · obtain ⟨rfl, rfl⟩ := Step.failed.inj (failed.symm.trans stepped)
    obtain ⟨fault, refused, other, rfl, message⟩ := process_fails waiting.target processed
    exact ⟨path, node, fault, found, waiting, refused, other, by simp, message⟩

section
variable {around : Surroundings} {path : String} {node new : Node} {gain : Gain} {before middle after : Traversal}

theorem Turn.nodes (turn : Turn around path node new gain before middle after) :
    after.nodes = middle.nodes.insert path new := by
  rw [turn.marked]
  rfl

theorem Turn.systems (turn : Turn around path node new gain before middle after) :
    after.systems = middle.systems := by
  rw [turn.marked]
  rfl

theorem Turn.worklist (turn : Turn around path node new gain before middle after) :
    after.worklist = (gain.files.map fun file => Item.listed file.path).reverse ++ before.worklist.tail := by
  rw [turn.marked]
  change middle.worklist = _
  rw [turn.reads.grows.worklist, taken_worklist]

theorem Turn.diagnostics (turn : Turn around path node new gain before middle after) :
    after.diagnostics = before.diagnostics ++ gain.problems := by
  rw [turn.marked]
  change middle.diagnostics = _
  rw [turn.reads.grows.diagnostics, taken_diagnostics]

/-- The directory of a file is in use before the file is opened. -/
theorem Turn.mem_includePaths (turn : Turn around path node new gain before middle after) {other : String} :
    other ∈ after.includePaths ↔ other ∈ before.includePaths ∨ other = Path.dirname path := by
  rw [turn.marked]
  change other ∈ middle.includePaths ↔ _
  rw [turn.reads.grows.includePaths, mem_taken]

/-- The marked node differs from the waiting one in its status, its children and whether its file is present. -/
theorem Turn.kept (turn : Turn around path node new gain before middle after) :
    new.kind = node.kind ∧ new.parent = node.parent ∧ new.status = .resolved ∧ new.path = path := by
  have own := turn.waiting.target
  cases turn.reads with
  | missing absent grows => exact ⟨rfl, rfl, rfl, rfl⟩
  | opened found opens => exact ⟨rfl, rfl, rfl, by simp [readNode, Node.path, own]⟩

theorem Turn.found_after (turn : Turn around path node new gain before middle after) :
    after.nodes.find? path = some new := by
  rw [turn.nodes, Table.find?_insert_self]

theorem Turn.find?_of_ne (turn : Turn around path node new gain before middle after) {other : String}
    (different : path ≠ other) : after.nodes.find? other = middle.nodes.find? other := by
  rw [turn.nodes, Table.find?_insert_of_ne different]

theorem Turn.found_middle (turn : Turn around path node new gain before middle after) {other : String} {known : Node}
    (found : before.nodes.find? other = some known) : middle.nodes.find? other = some known := by
  apply turn.reads.grows.kept
  rw [taken_nodes, found]

theorem Turn.middleKeys (turn : Turn around path node new gain before middle after) :
    after.nodes.keys = middle.nodes.keys := by
  rw [turn.nodes, Table.keys_insert_of_present (turn.found_middle turn.found)]

theorem Turn.keys (turn : Turn around path node new gain before middle after) :
    after.nodes.keys = before.nodes.keys ++ gain.files.map (·.path) := by
  simpa [turn.middleKeys] using turn.reads.grows.keys

theorem Turn.added (turn : Turn around path node new gain before middle after) {file : Newcomer}
    (member : file ∈ gain.files) : after.nodes.find? file.path = some (file.node path) := by
  have absent := turn.reads.grows.newFiles file member
  have different : path ≠ file.path := by
    intro same
    rw [← same, taken_nodes, turn.found] at absent
    cases absent
  rw [turn.find?_of_ne different]
  exact turn.reads.grows.added member

/-- After a turn there are the node that was read, the other nodes as they were, and the newcomers. -/
theorem Turn.cases (turn : Turn around path node new gain before middle after) {other : String} {known : Node}
    (present : after.nodes.find? other = some known) :
    (other = path ∧ known = new) ∨ (path ≠ other ∧ before.nodes.find? other = some known) ∨
      ∃ file ∈ gain.files, file.path = other ∧ known = file.node path := by
  by_cases same : path = other
  · subst same
    rw [turn.found_after] at present
    exact Or.inl ⟨rfl, (Option.some.inj present).symm⟩
  · rw [turn.find?_of_ne same] at present
    rcases turn.reads.grows.cases present with old | ⟨-, file, member, path, node⟩
    · exact Or.inr (Or.inl ⟨same, by simpa using old⟩)
    · exact Or.inr (Or.inr ⟨file, member, path, node⟩)

/-- Later states keep all nodes, and the resolved ones as they are. -/
structure Follows (before after : Traversal) : Prop where
  nodes : ∀ path node, before.nodes.find? path = some node → ∃ later, after.nodes.find? path = some later ∧
    later.kind = node.kind ∧ later.parent = node.parent ∧ (node.status = .resolved → later = node)
  systems : ∀ name node, before.systems.find? name = some node → after.systems.find? name = some node

theorem Follows.refl (state : Traversal) : Follows state state :=
  ⟨fun _ node found => ⟨node, found, rfl, rfl, fun _ => rfl⟩, fun _ _ found => found⟩

theorem Follows.trans {first second third : Traversal} (early : Follows first second) (late : Follows second third) :
    Follows first third := by
  refine ⟨?_, fun name node found => late.systems name node (early.systems name node found)⟩
  intro path node found
  obtain ⟨middle, there, kind, parent, same⟩ := early.nodes path node found
  obtain ⟨last, present, lastKind, lastParent, lastSame⟩ := late.nodes path middle there
  refine ⟨last, present, lastKind.trans kind, lastParent.trans parent, ?_⟩
  intro resolved
  obtain rfl := same resolved
  exact lastSame resolved

theorem Follows.keys {before after : Traversal} (follows : Follows before after) {path : String}
    (member : path ∈ before.nodes.keys) : path ∈ after.nodes.keys := by
  obtain ⟨node, found⟩ := (Table.mem_keys_iff _ _).mp member
  obtain ⟨later, there, -⟩ := follows.nodes path node found
  exact (Table.mem_keys_iff _ _).mpr ⟨later, there⟩

theorem Follows.systemKeys {before after : Traversal} (follows : Follows before after) {name : String}
    (member : name ∈ before.systems.keys) : name ∈ after.systems.keys := by
  obtain ⟨node, found⟩ := (Table.mem_keys_iff _ _).mp member
  exact (Table.mem_keys_iff _ _).mpr ⟨node, follows.systems name node found⟩

theorem Turn.follows (turn : Turn around path node new gain before middle after) : Follows before after := by
  constructor
  · intro other known found
    by_cases same : path = other
    · subst same
      obtain rfl := Option.some.inj (turn.found.symm.trans found)
      obtain ⟨kind, parent, -, -⟩ := turn.kept
      exact ⟨new, turn.found_after, kind, parent, fun resolved => by simp [turn.waiting.status] at resolved⟩
    · exact ⟨known, by rw [turn.find?_of_ne same, turn.found_middle found], rfl, rfl, fun _ => rfl⟩
  · intro name known found
    rw [turn.systems]
    exact turn.reads.grows.system_kept (by simpa using found)

end

end IncludeGraph.Proofs.Turns
