import IncludeGraph.Traversal.Process
import Mathlib.Data.List.Forall2

/-! What the work on one file adds to a traversal. Nodes are only ever added behind the known ones and on top of
the worklist, and the file introduces each of them: as a companion, or as the child of one of its directives. -/

namespace IncludeGraph.Proofs.Growth
open Traversal

structure Newcomer where
  kind : Kind
  path : String

def Newcomer.node (file : Newcomer) (parent : String) : Node :=
  { kind := file.kind, target := .file file.path true, status := .queued, parent := some parent }

def Newcomer.entry (parent : String) (file : Newcomer) : String × Node := (file.path, file.node parent)

def systemNode (name parent : String) : Node :=
  { kind := .header, target := .system name, status := .created, parent := some parent }

structure Gain where
  files : List Newcomer := []
  systems : List String := []
  problems : List Diagnostic := []

instance : Append Gain :=
  ⟨fun first last => ⟨first.files ++ last.files, first.systems ++ last.systems, first.problems ++ last.problems⟩⟩

@[simp] theorem Gain.files_append (first last : Gain) : (first ++ last).files = first.files ++ last.files := rfl

@[simp] theorem Gain.systems_append (first last : Gain) : (first ++ last).systems = first.systems ++ last.systems := rfl

@[simp] theorem Gain.problems_append (first last : Gain) :
    (first ++ last).problems = first.problems ++ last.problems := rfl

/-- The work on one file only ever adds: nodes and system includes behind the known ones, diagnostics at the end, and
the new files on top of the worklist, the last one first. -/
structure Grows (parent : String) (gain : Gain) (before after : Traversal) : Prop where
  nodes : after.nodes.entries = before.nodes.entries ++ gain.files.map (Newcomer.entry parent)
  systems : after.systems.entries = before.systems.entries ++ gain.systems.map fun name => (name, systemNode name parent)
  diagnostics : after.diagnostics = before.diagnostics ++ gain.problems
  worklist : after.worklist = (gain.files.map fun file => Item.listed file.path).reverse ++ before.worklist
  includePaths : after.includePaths = before.includePaths
  detached : after.detached = before.detached
  newFiles : ∀ file ∈ gain.files, before.nodes.find? file.path = none
  distinctFiles : (gain.files.map (·.path)).Nodup
  newSystems : ∀ name ∈ gain.systems, before.systems.find? name = none
  distinctSystems : gain.systems.Nodup

variable {around : Surroundings} {parent path : String} {gain : Gain} {before after : Traversal}

theorem Grows.unchanged (nodes : after.nodes = before.nodes) (systems : after.systems = before.systems)
    (diagnostics : after.diagnostics = before.diagnostics) (worklist : after.worklist = before.worklist)
    (includePaths : after.includePaths = before.includePaths) (detached : after.detached = before.detached) :
    Grows parent {} before after := by
  constructor <;> simp_all

theorem Grows.refl (parent : String) (state : Traversal) : Grows parent {} state state :=
  .unchanged rfl rfl rfl rfl rfl rfl

theorem Grows.tell (parent : String) (state : Traversal) (record : Log.Record) :
    Grows parent {} state (state.tell record) :=
  .unchanged rfl rfl rfl rfl rfl rfl

theorem Grows.detail (parent : String) (state : Traversal) (options : Options) (message : String) :
    Grows parent {} state (state.detail options message) := by
  unfold Traversal.detail
  split
  · exact .tell parent state _
  · exact .refl parent state

theorem Grows.note (parent : String) (state : Traversal) (problem : Diagnostic) :
    Grows parent { problems := [problem] } state (state.note problem) := by
  constructor <;> simp [Traversal.note]

private theorem entries_paths (parent : String) (files : List Newcomer) :
    (files.map (Newcomer.entry parent)).map (·.1) = files.map (·.path) := by
  simp [Newcomer.entry]

theorem Grows.keys (grows : Grows parent gain before after) :
    after.nodes.keys = before.nodes.keys ++ gain.files.map (·.path) := by
  simp only [Table.keys, grows.nodes, List.map_append, entries_paths]

theorem Grows.systemKeys (grows : Grows parent gain before after) :
    after.systems.keys = before.systems.keys ++ gain.systems := by
  simp only [Table.keys, grows.systems, List.map_append, List.map_map, Function.comp_def, List.map_id']

theorem Grows.find? (grows : Grows parent gain before after) (path : String) :
    after.nodes.find? path =
      (before.nodes.find? path).or (Table.lookup path (gain.files.map (Newcomer.entry parent))) := by
  simp only [Table.find?, grows.nodes, Table.lookup_append]

/-- Nodes that were there stay as they are. -/
theorem Grows.kept (grows : Grows parent gain before after) {node : Node}
    (found : before.nodes.find? path = some node) : after.nodes.find? path = some node := by
  rw [grows.find?, found, Option.some_or]

theorem Grows.added (grows : Grows parent gain before after) {file : Newcomer} (member : file ∈ gain.files) :
    after.nodes.find? file.path = some (file.node parent) := by
  rw [grows.find?, grows.newFiles file member, Option.none_or]
  apply Table.lookup_of_mem
  · rw [entries_paths]
    exact grows.distinctFiles
  · exact List.mem_map.mpr ⟨file, member, rfl⟩

/-- Every node is an old one or that of a newcomer. -/
theorem Grows.cases (grows : Grows parent gain before after) {node : Node}
    (found : after.nodes.find? path = some node) :
    before.nodes.find? path = some node ∨
      before.nodes.find? path = none ∧ ∃ file ∈ gain.files, file.path = path ∧ node = file.node parent := by
  rw [grows.find?] at found
  cases old : before.nodes.find? path with
  | some known => exact Or.inl (by simpa [old] using found)
  | none =>
    rw [old, Option.none_or] at found
    obtain ⟨file, member, same⟩ := List.mem_map.mp (Table.mem_of_lookup found)
    obtain ⟨rfl, rfl⟩ := Prod.mk.inj same
    exact Or.inr ⟨rfl, file, member, rfl, rfl⟩

theorem Grows.distinct (grows : Grows parent gain before after) (distinct : before.nodes.keys.Nodup) :
    after.nodes.keys.Nodup := by
  rw [grows.keys]
  refine List.nodup_append.mpr ⟨distinct, grows.distinctFiles, ?_⟩
  intro known member other new same
  obtain ⟨file, inside, rfl⟩ := List.mem_map.mp new
  exact (Table.find?_eq_none_iff _ _).mp (grows.newFiles file inside) (same ▸ member)

theorem Grows.system_cases (grows : Grows parent gain before after) {name : String} {node : Node}
    (found : after.systems.find? name = some node) :
    before.systems.find? name = some node ∨ name ∈ gain.systems ∧ node = systemNode name parent := by
  simp only [Table.find?, grows.systems, Table.lookup_append] at found
  cases old : Table.lookup name before.systems.entries with
  | some known => exact Or.inl (by simpa [old, Table.find?] using found)
  | none =>
    rw [old, Option.none_or] at found
    obtain ⟨_, member, same⟩ := List.mem_map.mp (Table.mem_of_lookup found)
    obtain ⟨rfl, rfl⟩ := Prod.mk.inj same
    exact Or.inr ⟨member, rfl⟩

theorem Grows.system_kept (grows : Grows parent gain before after) {name : String} {node : Node}
    (found : before.systems.find? name = some node) : after.systems.find? name = some node := by
  simp only [Table.find?] at found
  simp only [Table.find?, grows.systems, Table.lookup_append, found, Option.some_or]

theorem Grows.trans {middle : Traversal} {more : Gain} (first : Grows parent gain before middle)
    (last : Grows parent more middle after) : Grows parent (gain ++ more) before after := by
  constructor
  · rw [last.nodes, first.nodes, List.append_assoc, ← List.map_append]
    rfl
  · rw [last.systems, first.systems, List.append_assoc, ← List.map_append]
    rfl
  · rw [last.diagnostics, first.diagnostics, List.append_assoc]
    rfl
  · rw [last.worklist, first.worklist, ← List.append_assoc, ← List.reverse_append, ← List.map_append]
    rfl
  · rw [last.includePaths, first.includePaths]
  · rw [last.detached, first.detached]
  · intro file member
    rcases List.mem_append.mp member with early | late
    · exact first.newFiles file early
    · have absent := last.newFiles file late
      rw [first.find?] at absent
      exact (Option.or_eq_none_iff.mp absent).1
  -- The later newcomers were not known in the middle, where the earlier ones were.
  · have separate : ∀ path ∈ gain.files.map (·.path), ∀ other ∈ more.files.map (·.path), path ≠ other := by
      intro path early other late same
      obtain ⟨file, member, rfl⟩ := List.mem_map.mp early
      obtain ⟨newcomer, inside, rfl⟩ := List.mem_map.mp late
      have absent := last.newFiles newcomer inside
      rw [← same, first.added member] at absent
      cases absent
    change ((gain.files ++ more.files).map (·.path)).Nodup
    rw [List.map_append]
    exact List.nodup_append.mpr ⟨first.distinctFiles, last.distinctFiles, separate⟩
  · intro name member
    rcases List.mem_append.mp member with early | late
    · exact first.newSystems name early
    · cases old : before.systems.find? name with
      | none => rfl
      | some node =>
        have absent := last.newSystems name late
        rw [first.system_kept old] at absent
        cases absent
  · refine List.nodup_append.mpr ⟨first.distinctSystems, last.distinctSystems, ?_⟩
    intro name early other late same
    subst other
    have absent := last.newSystems name late
    rw [Table.find?_eq_none_iff, first.systemKeys] at absent
    exact absent (List.mem_append_right _ early)

end IncludeGraph.Proofs.Growth
