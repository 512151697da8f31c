import IncludeGraph.Traversal.Process

/-! Why a traversal ends. Only a file that opens adds nodes, a path that opens is a text of bounded length, of
which there are finitely many, and each is read at most once. -/

namespace IncludeGraph.Traversal

noncomputable def textsUpTo : Nat → List (List Char)
  | 0 => [[]]
  | length + 1 => [] :: (textsUpTo length).flatMap fun text => (List.range 0x110000).map fun n => Char.ofNat n :: text

private theorem mem_textsUpTo {length : Nat} {text : List Char} (short : text.length ≤ length) :
    text ∈ textsUpTo length := by
  induction length generalizing text with
  | zero => simp [textsUpTo, List.eq_nil_of_length_eq_zero (Nat.le_zero.mp short)]
  | succ length ih =>
    cases text with
    | nil => simp [textsUpTo]
    | cons c rest =>
      refine List.mem_cons_of_mem _ (List.mem_flatMap.mpr ⟨rest, ih (Nat.le_of_succ_le_succ short), ?_⟩)
      refine List.mem_map.mpr ⟨c.toNat, List.mem_range.mpr ?_, by rw [Char.ofNat_toNat]⟩
      have bound := c.valid
      simp only [UInt32.isValidChar, Nat.isValidChar] at bound
      simp only [Char.toNat]
      omega

noncomputable def shortPaths : List String := (textsUpTo FileSystem.pathLimit).map String.ofList

theorem mem_shortPaths_of_read {files : FileSystem} {path : String} {bytes : List UInt8}
    (opened : files.read path = .ok bytes) : path ∈ shortPaths := by
  refine List.mem_map.mpr ⟨path.toList, mem_textsUpTo ?_, by simp⟩
  cases located : files.locate path with
  | error fault => simp [FileSystem.read, located] at opened
  | ok place => exact Nat.le_of_lt (FileSystem.length_lt_of_located located)

def isResolved (state : Traversal) (path : String) : Bool :=
  (state.nodes.find? path).any (·.status = .resolved)

/-- The paths that could still be opened for the first time, and the detached nodes that were not read yet. -/
noncomputable def remaining (state : Traversal) : Nat :=
  shortPaths.countP (fun path => !state.isResolved path) + state.detached.countP (·.status ≠ .resolved)

/-- Work adds nodes and changes none. -/
structure Extends (before after : Traversal) : Prop where
  nodes : ∀ path node, before.nodes.find? path = some node → after.nodes.find? path = some node
  detached : after.detached = before.detached

theorem Extends.refl (state : Traversal) : Extends state state := ⟨fun _ _ found => found, rfl⟩

theorem Extends.trans {first second third : Traversal} (early : Extends first second) (late : Extends second third) :
    Extends first third :=
  ⟨fun path node found => late.nodes path node (early.nodes path node found), late.detached.trans early.detached⟩

theorem Extends.isResolved {before after : Traversal} (extends_ : Extends before after) {path : String}
    (resolved : before.isResolved path = true) : after.isResolved path = true := by
  simp only [Traversal.isResolved, Option.any_eq_true] at resolved ⊢
  obtain ⟨node, found, status⟩ := resolved
  exact ⟨node, extends_.nodes path node found, status⟩

private theorem extends_tell (state : Traversal) (record : Log.Record) : Extends state (state.tell record) :=
  ⟨fun _ _ found => found, rfl⟩

private theorem extends_detail (state : Traversal) (options : Options) (message : String) :
    Extends state (state.detail options message) := by
  unfold detail
  split
  · exact extends_tell _ _
  · exact .refl _

private theorem extends_note (state : Traversal) (diagnostic : Diagnostic) : Extends state (state.note diagnostic) :=
  ⟨fun _ _ found => found, rfl⟩

private theorem extends_usePath (state : Traversal) (path : String) : Extends state (state.usePath path) := by
  unfold usePath
  split
  · exact .refl _
  · exact ⟨fun _ _ found => found, rfl⟩

private theorem extends_add (state : Traversal) (kind : Kind) (path : String) (parent : Option String)
    (new : ¬ state.nodes.contains path = true) : Extends state (state.add kind path parent) := by
  have absent : state.nodes.find? path = none := by simpa [Table.contains] using new
  refine ⟨?_, by simp [add, detach, absent]⟩
  intro other node found
  simp only [add, detach, absent]
  rw [Table.find?_insert_of_ne _ _ _]
  · exact found
  · intro same
    subst same
    simp [absent] at found

private theorem extends_addCompanions (around : Surroundings) (header : String) (suffixes : List String) :
    ∀ state, Extends state (addCompanions around header state suffixes) := by
  induction suffixes with
  | nil => exact fun state => .refl state
  | cons suffix rest ih =>
    intro state
    simp only [addCompanions]
    split
    · refine ((extends_detail state around.options
        ("Source found for " ++ header ++ ": " ++ companionPath header suffix)).trans ?_).trans (ih _)
      split
      · exact .refl _
      next new => exact extends_add _ _ _ _ new
    · exact ih state

private theorem extends_meet (state : Traversal) (path parent : String) : Extends state (state.meet path parent).2 := by
  simp only [meet]
  split
  · exact .refl _
  next new => exact extends_add _ _ _ _ new

private theorem extends_meetSystem (state : Traversal) (name parent : String) :
    Extends state (state.meetSystem name parent).2 := by
  simp only [meetSystem]
  split
  · exact .refl _
  · exact ⟨fun _ _ found => found, rfl⟩

private theorem extends_resolve (around : Surroundings) (state : Traversal) (parent directory : String)
    (directive : Directive) : Extends state (resolve around state parent directory directive).2 := by
  simp only [resolve]
  split
  · exact .refl _
  · split
    · exact extends_meet _ _ _
    · split
      · exact extends_meet _ _ _
      · exact extends_meetSystem _ _ _

private theorem extends_link (around : Surroundings) (path : String) (findings : List Finding) :
    ∀ state, Extends state (link around path state findings).2 := by
  induction findings with
  | nil => exact fun state => .refl state
  | cons finding rest ih =>
    intro state
    cases finding with
    | malformed line text =>
      simp only [link]
      exact ((extends_tell _ _).trans (extends_note _ _)).trans (ih _)
    | directive directive =>
      simp only [link]
      exact ((extends_resolve around state path _ directive).trans (extends_detail _ _ _)).trans (ih _)

private theorem countP_lt {α : Type} {fewer more : α → Bool} {items : List α}
    (weaker : ∀ item, fewer item = true → more item = true) {witness : α} (member : witness ∈ items)
    (counted : more witness = true) (uncounted : fewer witness = false) :
    items.countP fewer < items.countP more := by
  induction items with
  | nil => simp at member
  | cons item rest ih =>
    have tail : rest.countP fewer ≤ rest.countP more := List.countP_mono_left fun x _ => weaker x
    simp only [List.countP_cons]
    rcases List.mem_cons.mp member with rfl | inside
    · simp only [counted, uncounted]
      simp
      omega
    · have strict := ih inside
      have first := weaker item
      cases left : fewer item
      · cases more item <;> simp <;> omega
      · simp only [first left, if_true]
        omega

private theorem countP_set_lt {items : List Node} {number : Nat} {old new : Node} (found : items[number]? = some old)
    (waiting : old.status ≠ .resolved) (resolved : new.status = .resolved) :
    (items.set number new).countP (·.status ≠ .resolved) < items.countP (·.status ≠ .resolved) := by
  induction items generalizing number with
  | nil => simp at found
  | cons item rest ih =>
    cases number with
    | zero =>
      have same : item = old := by simpa using found
      subst same
      simp [resolved, waiting]
    | succ number =>
      have strict := @ih number (by simpa using found)
      simp only [List.set_cons_succ, List.countP_cons]
      omega

private theorem isResolved_setNode {before after : Traversal} (extended : Extends before after) {item : Item}
    {new : Node} (resolved : new.status = .resolved) {other : String} (done : before.isResolved other = true) :
    (after.setNode item new).isResolved other = true := by
  have kept := extended.isResolved done
  cases item with
  | listed path =>
    by_cases same : path = other
    · subst same
      simp [setNode, isResolved, resolved]
    · simpa [setNode, isResolved, Table.find?_insert_of_ne same] using kept
  | detached number => simpa [setNode, isResolved] using kept

/-- To mark the node of an item as read never makes more work, and makes less if the item is detached or its
path is short. -/
theorem remaining_setNode {before after : Traversal} (extended : Extends before after) {item : Item} {old new : Node}
    (found : before.node? item = some old) (waiting : old.status ≠ .resolved) (resolved : new.status = .resolved) :
    (after.setNode item new).remaining ≤ before.remaining ∧
      ((∀ path, item = .listed path → path ∈ shortPaths) → (after.setNode item new).remaining < before.remaining) := by
  have fewer : ∀ other, (!(after.setNode item new).isResolved other) = true → (!before.isResolved other) = true := by
    intro other unread
    cases done : before.isResolved other
    · rfl
    · simp [isResolved_setNode extended resolved done] at unread
  have most := List.countP_mono_left (l := shortPaths) fun other _ => fewer other
  cases item with
  | listed path =>
    have same : (after.setNode (.listed path) new).detached = before.detached := extended.detached
    constructor
    · simp only [remaining, same]
      omega
    · intro short
      have unread : before.isResolved path = false := by
        simp only [node?] at found
        simp [isResolved, found, waiting]
      have read : (after.setNode (.listed path) new).isResolved path = true := by
        simp [setNode, isResolved, resolved]
      have strict := countP_lt fewer (short path rfl) (by simp [unread]) (by simp [read])
      simp only [remaining, same]
      omega
  | detached number =>
    -- A node outside the table counts by itself, so that the short paths need not become fewer.
    have strict := countP_set_lt (show before.detached[number]? = some old from found) waiting resolved
    have same : (after.setNode (.detached number) new).detached = before.detached.set number new := by
      simp [setNode, extended.detached]
    have less : (after.setNode (.detached number) new).remaining < before.remaining := by
      simp only [remaining, same]
      omega
    exact ⟨Nat.le_of_lt less, fun _ => less⟩

/-- How much a traversal can still do, and how much it is about to do. -/
noncomputable def rank (state : Traversal) : Nat × Nat := (state.remaining, state.worklist.length)

/-- Processing a node leaves less to do, or as much and the worklist as it is. -/
theorem process_remaining {around : Surroundings} {state after : Traversal} {item : Item} {node : Node}
    (found : state.node? item = some node) (waiting : node.status ≠ .resolved)
    (processed : process around state item node = (after, none)) :
    after.remaining < state.remaining ∨ (after.remaining ≤ state.remaining ∧ after.worklist = state.worklist) := by
  simp only [process] at processed
  split at processed
  · simp at processed
  next own _ target =>
    split at processed
    · simp only [Prod.mk.injEq, and_true] at processed
      subst processed
      refine Or.inr ⟨(remaining_setNode (((extends_usePath state _).trans (extends_tell _ _)).trans
        (extends_note _ _)) found waiting rfl).1, ?_⟩
      cases item <;> simp only [setNode, note, tell, usePath] <;> split <;> rfl
    · simp at processed
    · simp at processed
    next bytes opened =>
      simp only [Prod.mk.injEq, and_true] at processed
      subst processed
      refine Or.inl ((remaining_setNode
        (((extends_usePath state (Path.dirname (item.readPath own))).trans ?_).trans (extends_link _ _ _ _))
        found waiting rfl).2 ?_)
      · split
        · exact extends_addCompanions _ _ _ _
        · exact .refl _
      · rintro path rfl
        exact mem_shortPaths_of_read opened

/-- Every step that goes on takes the rank down. -/
theorem step_rank {around : Surroundings} {state after : Traversal} (stepped : step around state = .next after) :
    Prod.Lex (· < ·) (· < ·) after.rank state.rank := by
  simp only [step] at stepped
  split at stepped
  · simp at stepped
  next item rest shape =>
    have shorter : ({ state with worklist := rest } : Traversal).worklist.length < state.worklist.length := by
      simp [shape]
    have same : ({ state with worklist := rest } : Traversal).remaining = state.remaining := rfl
    split at stepped
    · cases stepped
      exact Prod.Lex.right _ shorter
    next node found =>
      split at stepped
      · cases stepped
        exact Prod.Lex.right _ shorter
      · simp at stepped
      next status =>
        split at stepped
        next final processed =>
          cases stepped
          rcases process_remaining found (by simp [status]) processed with less | ⟨most, list⟩
          · exact Prod.Lex.left _ _ (same ▸ less)
          · rcases Nat.lt_or_eq_of_le most with less | equal
            · exact Prod.Lex.left _ _ (same ▸ less)
            · unfold rank
              rw [equal, list]
              exact Prod.Lex.right _ shorter
        · simp at stepped

end IncludeGraph.Traversal
