import IncludeGraph.Proofs.Turns
import IncludeGraph.Traversal.Run
import Mathlib.Data.List.Nodup
import Mathlib.Logic.Relation

/-! The invariant of the loop. The worklist holds exactly the queued nodes; a resolved node carries what its file
contains; and every node but the root was introduced by a resolved one, through which it goes back to the root. -/

namespace IncludeGraph.Proofs.WorklistInvariant
open Traversal Growth Resolution Turns

variable {around : Surroundings} {root path : String} {node new : Node} {gain : Gain}
  {before middle after : Traversal}

private theorem turn_once (orderly : Orderly before) (turn : Turn around path node new gain before middle after) :
    after.worklist.Nodup := by
  have once := orderly.once
  rw [turn.first] at once
  rw [turn.worklist]
  refine List.nodup_append.mpr ⟨?_, (List.nodup_cons.mp once).2, ?_⟩
  · apply List.nodup_reverse.mpr
    have distinct := turn.reads.grows.distinctFiles
    simpa only [List.map_map, Function.comp_def] using
      distinct.map (f := Item.listed) fun _ _ same => Item.listed.inj same
  · intro item fresh other old same
    subst other
    obtain ⟨file, member, rfl⟩ := List.mem_map.mp (List.mem_reverse.mp fresh)
    have waits : Item.listed file.path ∈ before.worklist := by
      rw [turn.first]
      exact List.mem_cons_of_mem _ old
    obtain ⟨_, known, listed, found, -⟩ := (orderly.waits _).mp waits
    obtain rfl := Item.listed.inj listed
    have absent := turn.reads.grows.newFiles file member
    rw [taken_nodes, found] at absent
    cases absent

private theorem turn_waits (orderly : Orderly before) (turn : Turn around path node new gain before middle after)
    (item : Item) : item ∈ after.worklist ↔
      ∃ path node, item = .listed path ∧ after.nodes.find? path = some node ∧ node.status = .queued := by
  rw [turn.worklist, List.mem_append, List.mem_reverse, List.mem_map]
  constructor
  · rintro (⟨file, member, rfl⟩ | old)
    · exact ⟨file.path, _, rfl, turn.added member, rfl⟩
    · have once := orderly.once
      rw [turn.first] at once
      have waits : item ∈ before.worklist := by
        rw [turn.first]
        exact List.mem_cons_of_mem _ old
      obtain ⟨other, known, rfl, found, queued⟩ := (orderly.waits item).mp waits
      have different : path ≠ other := fun same => (List.nodup_cons.mp once).1 (same ▸ old)
      exact ⟨other, known, rfl, by rw [turn.find?_of_ne different, turn.found_middle found], queued⟩
  · rintro ⟨other, known, rfl, found, queued⟩
    rcases turn.cases found with ⟨-, rfl⟩ | ⟨different, old⟩ | ⟨file, member, rfl, -⟩
    · simp [turn.kept.2.2.1] at queued
    · have waits := (orderly.waits (.listed other)).mpr ⟨other, known, rfl, old, queued⟩
      rw [turn.first] at waits
      rcases List.mem_cons.mp waits with same | inside
      · exact absurd (Item.listed.inj same).symm different
      · exact Or.inr inside
    · exact Or.inl ⟨file, member, rfl⟩

theorem orderly_turn (orderly : Orderly before) (turn : Turn around path node new gain before middle after) :
    Orderly after := by
  refine ⟨?_, turn_once orderly turn, turn_waits orderly turn, ?_⟩
  · have distinct := turn.reads.grows.distinct (by simpa using orderly.distinct)
    rw [turn.keys]
    simpa [turn.reads.grows.keys] using distinct
  · intro other known found queued
    rcases turn.cases found with ⟨rfl, rfl⟩ | ⟨-, old⟩ | ⟨file, member, rfl, rfl⟩
    · simp [turn.kept.2.2.1] at queued
    · exact orderly.queued other known old queued
    · exact ⟨rfl, rfl, rfl⟩

/-- What a node that was read carries: no children if its file is not there, and otherwise one for each directive, all
of them known, with its companions if it is a header. -/
inductive Visited (around : Surroundings) (nodes systems : Table String Node) (path : String) (node : Node) :
    Prop where
  | missing (absent : around.files.read path = .error .missing) (target : node.target = .file path false)
      (children : node.children = none)
  | opened {bytes children} (found : around.files.read path = .ok bytes) (target : node.target = .file path true)
      (listed : node.children = some children)
      (means : List.Forall₂ (MayMean around path) (directivesOf bytes) children)
      (known : ∀ child ∈ children, Known nodes systems child)
      (companions : node.kind = .header → ∀ other, Companion around path other → other ∈ nodes.keys)

def Introduced (around : Surroundings) (nodes : Table String Node) (path : String) (node : Node) : Prop :=
  ∃ parent origin children, node.parent = some parent ∧ nodes.find? parent = some origin ∧
    origin.status = .resolved ∧ origin.children = some children ∧
    Introduces around parent origin.kind children node.kind path

def ParentLink (nodes : Table String Node) (path parent : String) : Prop :=
  ∃ node, nodes.find? path = some node ∧ node.parent = some parent

/-- What every step of the loop keeps. What is known was introduced by a file that was read, and leads back to the
root; what was read has all that it demands known; the rest waits. -/
structure Invariant (around : Surroundings) (root : String) (state : Traversal) : Prop extends Orderly state where
  rooted : ∃ node, state.nodes.find? root = some node ∧ node.kind = .source ∧ node.parent = none
  settled : ∀ path node, state.nodes.find? path = some node → node.status = .queued ∨ node.status = .resolved
  visited : ∀ path node, state.nodes.find? path = some node → node.status = .resolved →
    Visited around state.nodes state.systems path node
  introduced : ∀ path node, state.nodes.find? path = some node → path ≠ root →
    Introduced around state.nodes path node
  ascends : ∀ path ∈ state.nodes.keys, Relation.ReflTransGen (ParentLink state.nodes) path root
  systems : ∀ name node, state.systems.find? name = some node → ∃ parent origin children,
    node = systemNode name parent ∧ state.nodes.find? parent = some origin ∧ origin.status = .resolved ∧
    origin.children = some children ∧ .system name ∈ children

theorem Visited.later {before after : Traversal} (follows : Follows before after)
    (visited : Visited around before.nodes before.systems path node) :
    Visited around after.nodes after.systems path node := by
  cases visited with
  | missing absent target children => exact .missing absent target children
  | opened found target listed means known companions =>
    refine .opened found target listed means ?_ ?_
    · intro child member
      exact (known child member).mono (fun _ => follows.keys) (fun _ => follows.systemKeys)
    · intro header other companion
      exact follows.keys (companions header other companion)

theorem Introduced.later {before after : Traversal} (follows : Follows before after) {later : Node}
    (introduced : Introduced around before.nodes path node) (kind : later.kind = node.kind)
    (parent : later.parent = node.parent) : Introduced around after.nodes path later := by
  obtain ⟨source, origin, children, by_, found, resolved, listed, how⟩ := introduced
  obtain ⟨last, there, -, -, same⟩ := follows.nodes source origin found
  obtain rfl := same resolved
  exact ⟨source, last, children, parent.trans by_, there, resolved, listed, kind ▸ how⟩

theorem ParentLink.later {before after : Traversal} (follows : Follows before after) {parent : String}
    (link : ParentLink before.nodes path parent) : ParentLink after.nodes path parent := by
  obtain ⟨node, found, by_⟩ := link
  obtain ⟨last, there, -, same, -⟩ := follows.nodes path node found
  exact ⟨last, there, same.trans by_⟩

private theorem turn_visited (turn : Turn around path node new gain before middle after) :
    Visited around after.nodes after.systems path new := by
  have own := turn.waiting.target
  cases turn.reads with
  | missing absent grows => exact .missing absent rfl turn.waiting.children
  | opened found opens =>
    refine .opened found own rfl opens.means ?_ ?_
    · intro child member
      rw [turn.systems]
      exact (opens.known child member).mono (fun _ inside => turn.middleKeys ▸ inside) (fun _ inside => inside)
    · intro header other companion
      rw [turn.middleKeys]
      exact opens.companions header other companion

/-- Newcomers are introduced by the node whose file was read. -/
private theorem turn_introduces (turn : Turn around path node new gain before middle after) {file : Newcomer}
    (member : file ∈ gain.files) : Introduced around after.nodes file.path (file.node path) := by
  have found := turn.found_after
  cases turn.reads with
  | missing absent grows => simp at member
  | opened opened opens => exact ⟨path, _, _, rfl, found, rfl, rfl, opens.files file member⟩

private theorem turn_names (turn : Turn around path node new gain before middle after) {name : String}
    (member : name ∈ gain.systems) : ∃ parent origin children,
      systemNode name path = systemNode name parent ∧ after.nodes.find? parent = some origin ∧
      origin.status = .resolved ∧ origin.children = some children ∧ .system name ∈ children := by
  have found := turn.found_after
  cases turn.reads with
  | missing absent grows => simp at member
  | opened opened opens => exact ⟨path, _, _, rfl, found, rfl, rfl, opens.systems name member⟩

theorem Invariant.turn (valid : Invariant around root before)
    (turn : Turn around path node new gain before middle after) : Invariant around root after := by
  have follows := turn.follows
  obtain ⟨kind, parent, resolved, -⟩ := turn.kept
  refine ⟨orderly_turn valid.toOrderly turn, ?_, ?_, ?_, ?_, ?_, ?_⟩
  · obtain ⟨start, found, source, orphan⟩ := valid.rooted
    obtain ⟨later, there, sameKind, sameParent, -⟩ := follows.nodes root start found
    exact ⟨later, there, sameKind.trans source, sameParent.trans orphan⟩
  · intro other known found
    rcases turn.cases found with ⟨rfl, rfl⟩ | ⟨-, old⟩ | ⟨file, member, rfl, rfl⟩
    · exact Or.inr resolved
    · exact valid.settled other known old
    · exact Or.inl rfl
  · intro other known found done
    rcases turn.cases found with ⟨rfl, rfl⟩ | ⟨-, old⟩ | ⟨file, member, rfl, rfl⟩
    · exact turn_visited turn
    · exact (valid.visited other known old done).later follows
    · cases done
  · intro other known found below
    rcases turn.cases found with ⟨rfl, rfl⟩ | ⟨-, old⟩ | ⟨file, member, rfl, rfl⟩
    · exact (valid.introduced other node turn.found below).later follows kind parent
    · exact (valid.introduced other known old below).later follows rfl rfl
    · exact turn_introduces turn member
  · have old : ∀ other ∈ before.nodes.keys, Relation.ReflTransGen (ParentLink after.nodes) other root :=
      fun other member =>
        (valid.ascends other member).lift id fun _ _ => ParentLink.later follows
    intro other member
    rw [turn.keys] at member
    rcases List.mem_append.mp member with known | fresh
    · exact old other known
    · obtain ⟨file, inside, rfl⟩ := List.mem_map.mp fresh
      -- A newcomer goes back to the root through the node that was read.
      have reader : path ∈ before.nodes.keys := (Table.mem_keys_iff _ _).mpr ⟨node, turn.found⟩
      exact .head ⟨_, turn.added inside, rfl⟩ (old path reader)
  · intro name known found
    rw [turn.systems] at found
    rcases turn.reads.grows.system_cases found with old | ⟨member, rfl⟩
    · obtain ⟨source, origin, children, same, present, done, listed, child⟩ :=
        valid.systems name known (by simpa using old)
      obtain ⟨later, there, -, -, unchanged⟩ := follows.nodes source origin present
      obtain rfl := unchanged done
      exact ⟨source, later, children, same, there, done, listed, child⟩
    · exact turn_names turn member

def start (index : HeaderIndex) (root : String) : Traversal := (Traversal.initial index).add .source root none

def rootNode (root : String) : Node := { kind := .source, target := .file root true, status := .queued }

theorem start_find? (index : HeaderIndex) (root path : String) :
    (start index root).nodes.find? path = if root = path then some (rootNode root) else none := rfl

theorem start_systems (index : HeaderIndex) (root name : String) : (start index root).systems.find? name = none := rfl

theorem start_worklist (index : HeaderIndex) (root : String) : (start index root).worklist = [.listed root] := rfl

theorem Invariant.initial (around : Surroundings) (index : HeaderIndex) (root : String) :
    Invariant around root (start index root) := by
  have only : ∀ path node, (start index root).nodes.find? path = some node → path = root ∧ node = rootNode root := by
    intro path node found
    rw [start_find?] at found
    split at found
    next same => exact ⟨same.symm, (Option.some.inj found).symm⟩
    · cases found
  have found : (start index root).nodes.find? root = some (rootNode root) := by rw [start_find?, if_pos rfl]
  refine ⟨⟨?_, ?_, ?_, ?_⟩, ⟨_, found, rfl, rfl⟩, ?_, ?_, ?_, ?_, ?_⟩
  · exact List.nodup_singleton root
  · exact List.nodup_singleton _
  · intro item
    rw [start_worklist, List.mem_singleton]
    constructor
    · rintro rfl
      exact ⟨root, _, rfl, found, rfl⟩
    · rintro ⟨path, node, rfl, present, -⟩
      rw [(only path node present).1]
  · intro path node present _
    obtain ⟨rfl, rfl⟩ := only path node present
    exact ⟨rfl, rfl, rfl⟩
  · intro path node present
    obtain ⟨rfl, rfl⟩ := only path node present
    exact Or.inl rfl
  · intro path node present resolved
    obtain ⟨rfl, rfl⟩ := only path node present
    cases resolved
  · intro path node present below
    exact absurd (only path node present).1 below
  · intro path member
    obtain ⟨node, present⟩ := (Table.mem_keys_iff _ _).mp member
    rw [(only path node present).1]
  · intro name node present
    rw [start_systems] at present
    cases present

theorem Invariant.step (valid : Invariant around root before) (stepped : step around before = .next after) :
    Invariant around root after ∧ Follows before after := by
  obtain ⟨path, node, new, gain, middle, turn⟩ := valid.toOrderly.turn stepped
  exact ⟨valid.turn turn, turn.follows⟩

/-- The parent of a node opened, and introduced it. -/
theorem Invariant.introduces (valid : Invariant around root before)
    (found : before.nodes.find? path = some node) {parent : String} (by_ : node.parent = some parent) :
    ∃ origin children bytes, before.nodes.find? parent = some origin ∧ around.files.read parent = .ok bytes ∧
      origin.children = some children ∧ List.Forall₂ (MayMean around parent) (directivesOf bytes) children ∧
      Introduces around parent origin.kind children node.kind path := by
  have below : path ≠ root := by
    rintro rfl
    obtain ⟨start, there, -, orphan⟩ := valid.rooted
    obtain rfl := Option.some.inj (there.symm.trans found)
    cases orphan.symm.trans by_
  obtain ⟨source, origin, children, same, there, resolved, listed, how⟩ := valid.introduced path node found below
  obtain rfl := Option.some.inj (same.symm.trans by_)
  cases valid.visited source origin there resolved with
  | missing _ _ childless => cases childless.symm.trans listed
  | @opened bytes own opens _ kept means =>
    obtain rfl := Option.some.inj (kept.symm.trans listed)
    exact ⟨origin, own, bytes, there, opens, listed, means, how⟩

def Advances (around : Surroundings) (before after : Traversal) : Prop := Traversal.step around before = .next after

theorem Invariant.run (valid : Invariant around root before)
    (runs : Relation.ReflTransGen (Advances around) before after) :
    Invariant around root after ∧ Follows before after := by
  induction runs with
  | refl => exact ⟨valid, .refl before⟩
  | tail _ advances ih =>
    obtain ⟨kept, follows⟩ := ih.1.step advances
    exact ⟨kept, ih.2.trans follows⟩

theorem invariant_of_runs (runs : Relation.ReflTransGen (Advances around) (start around.index root) after) :
    Invariant around root after :=
  ((Invariant.initial around around.index root).run runs).1

theorem turn_of_runs (runs : Relation.ReflTransGen (Advances around) (start around.index root) before)
    (stepped : Traversal.step around before = .next after) :
    ∃ path node new gain middle, Turn around path node new gain before middle after :=
  (invariant_of_runs runs).toOrderly.turn stepped

/-- A traversal ends at a state that it reaches, where nothing waits or the next step fails. -/
theorem exhaust_cases (around : Surroundings) (state : Traversal) :
    ∃ last, Relation.ReflTransGen (Advances around) state last ∧
      ((Traversal.step around last = .done ∧ exhaust around state = (last, none)) ∨
        ∃ final failure, Traversal.step around last = .failed final failure ∧
          exhaust around state = (final, some failure)) := by
  fun_induction exhaust around state with
  | case1 state stepped => exact ⟨state, .refl, Or.inl ⟨stepped, rfl⟩⟩
  | case2 state final failure stepped => exact ⟨state, .refl, Or.inr ⟨final, failure, stepped, rfl⟩⟩
  | case3 state following stepped ih =>
    obtain ⟨last, runs, ending⟩ := ih
    exact ⟨last, .head stepped runs, ending⟩

end IncludeGraph.Proofs.WorklistInvariant
