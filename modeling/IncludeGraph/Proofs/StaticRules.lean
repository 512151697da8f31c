import IncludeGraph.Proofs.Resolution
import Mathlib.Data.Set.Basic
import Mathlib.Order.Bounds.Basic

/-! Includes and companions without a traversal: the static target of a directive, the least sets of headers and
sources that are closed under both rules, and the conditions under which a traversal can be told from them. -/

namespace IncludeGraph.Proofs.StaticRules
open Traversal Resolution

/-- What a directive means by its text and the index alone. A quoted one means the path beside its file, whatever the
index has. -/
def staticTarget (around : Surroundings) (path : String) (directive : Directive) : Ref :=
  if directive.quoted then .file (candidate around (Path.dirname path) directive.name)
  else
    match around.index.find? directive.name with
    | some target => .file target
    | none => .system directive.name

def Includes (around : Surroundings) (path target : String) : Prop :=
  ∃ bytes directive, around.files.read path = .ok bytes ∧ directive ∈ directivesOf bytes ∧
    staticTarget around path directive = .file target

def Accompanies (around : Surroundings) (header path : String) : Prop :=
  (∃ bytes, around.files.read header = .ok bytes) ∧ Companion around header path

/-- Two sets of files that hold the root among the sources, with every file its static targets among the headers, and
with every header its companions among the sources. -/
structure Closed (around : Surroundings) (root : String) (headers sources : Set String) : Prop where
  rooted : root ∈ sources
  includes : ∀ path ∈ headers ∪ sources, ∀ target, Includes around path target → target ≠ root →
    target ∈ headers
  companions : ∀ header ∈ headers, ∀ path, Accompanies around header path → path ∈ sources

/-- The headers and sources that the rules generate. No state and no order has a part in it, so that the lists of a
graph can be compared with it. -/
inductive Generated (around : Surroundings) (root : String) : Kind → String → Prop where
  | root : Generated around root .source root
  | includes {kind path target} (member : Generated around root kind path)
      (includes : Includes around path target) (below : target ≠ root) : Generated around root .header target
  | companion {header path} (member : Generated around root .header header)
      (accompanies : Accompanies around header path) : Generated around root .source path

variable {around : Surroundings} {root : String}

theorem Generated.mem {headers sources : Set String} (closed : Closed around root headers sources) {kind : Kind}
    {path : String} (generated : Generated around root kind path) :
    match kind with
    | .header => path ∈ headers
    | .source => path ∈ sources := by
  induction generated with
  | root => exact closed.rooted
  | @includes kind _ _ _ includes below ih =>
    refine closed.includes _ ?_ _ includes below
    cases kind with
    | header => exact Or.inl ih
    | source => exact Or.inr ih
  | companion _ accompanies ih => exact closed.companions _ ih _ accompanies

/-- What is generated is the least pair of closed sets, whatever the index and the files are. -/
theorem generated_isLeast (around : Surroundings) (root : String) :
    IsLeast {pair : Set String × Set String | Closed around root pair.1 pair.2}
      ({path | Generated around root .header path}, {path | Generated around root .source path}) := by
  refine ⟨⟨.root, ?_, ?_⟩, ?_⟩
  · intro path member target includes below
    rcases member with header | source
    · exact .includes header includes below
    · exact .includes source includes below
  · intro header member path accompanies
    exact .companion member accompanies
  · intro ⟨headers, sources⟩ closed
    exact ⟨fun path generated => generated.mem closed, fun path generated => generated.mem closed⟩

/-- The index lacks the name of a quoted directive, or knows it by the directive's own path. Then it makes no
difference which of the two is looked at first. -/
def Agrees (around : Surroundings) (root : String) : Prop :=
  ∀ kind path bytes directive, Generated around root kind path → around.files.read path = .ok bytes →
    directive ∈ directivesOf bytes → directive.quoted = true →
    around.index.find? directive.name = none ∨
      around.index.find? directive.name = some (candidate around (Path.dirname path) directive.name)

/-- No file but the root is both included and the companion of a header. Then the kind of a file does not depend on
which of the two is met first. -/
def Apart (around : Surroundings) (root : String) : Prop :=
  ∀ path kind includer header, path ≠ root → Generated around root kind includer →
    Includes around includer path → Generated around root .header header → ¬ Accompanies around header path

/-- No path is generated as both kinds but the root. -/
theorem Generated.not_both (apart : Apart around root) {path : String} (below : path ≠ root)
    (header : Generated around root .header path) : ¬ Generated around root .source path := by
  intro source
  cases header with
  | includes includer includes =>
    cases source with
    | root => exact below rfl
    | companion member accompanies => exact apart path _ _ _ below includer includes member accompanies

def directivesAt (around : Surroundings) (path : String) : List Directive :=
  match around.files.read path with
  | .ok bytes => directivesOf bytes
  | .error _ => []

def includedBy (around : Surroundings) (path : String) : List String :=
  (directivesAt around path).filterMap fun directive =>
    match staticTarget around path directive with
    | .file target => some target
    | .system _ => none

theorem mem_directivesAt {path : String} {directive : Directive} : directive ∈ directivesAt around path ↔
    ∃ bytes, around.files.read path = .ok bytes ∧ directive ∈ directivesOf bytes := by
  unfold directivesAt
  cases around.files.read path with
  | ok bytes => simp
  | error fault => simp

theorem includes_iff {path target : String} : Includes around path target ↔ target ∈ includedBy around path := by
  rw [includedBy, List.mem_filterMap]
  constructor
  · intro ⟨bytes, directive, read, member, static⟩
    exact ⟨directive, mem_directivesAt.mpr ⟨bytes, read, member⟩, by simp [static]⟩
  · intro ⟨directive, member, static⟩
    obtain ⟨bytes, read, inside⟩ := mem_directivesAt.mp member
    refine ⟨bytes, directive, read, inside, ?_⟩
    split at static
    next file same => rw [same, Option.some.inj static]
    · cases static

/-- The rules and the conditions on them as they are checked on finitely many files. Every generated file is among
these, so that the check says all that the conditions ask. -/
def Surveyed (around : Surroundings) (root : String) (headers sources : List String) : Prop :=
  root ∈ sources ∧
  (∀ path ∈ headers ++ sources, ∀ target ∈ includedBy around path, target = root ∨ target ∈ headers) ∧
  (∀ header ∈ headers, ∀ suffix ∈ around.options.companionSuffixes,
    around.files.isFile (companionPath header suffix) = true → companionPath header suffix ∈ sources ∧
      ∀ path ∈ headers ++ sources, companionPath header suffix ∈ includedBy around path →
        companionPath header suffix = root) ∧
  ∀ path ∈ headers ++ sources, ∀ directive ∈ directivesAt around path, directive.quoted = true →
    around.index.find? directive.name = none ∨
      around.index.find? directive.name = some (candidate around (Path.dirname path) directive.name)

instance (around : Surroundings) (root : String) (headers sources : List String) :
    Decidable (Surveyed around root headers sources) :=
  inferInstanceAs (Decidable (_ ∧ _ ∧ _ ∧ _))

theorem Surveyed.closed {headers sources : List String} (surveyed : Surveyed around root headers sources) :
    Closed around root {path | path ∈ headers} {path | path ∈ sources} := by
  obtain ⟨rooted, includes, companions, -⟩ := surveyed
  refine ⟨rooted, ?_, ?_⟩
  · intro path member target included below
    rcases includes path (List.mem_append.mpr member) target (includes_iff.mp included) with top | header
    · exact absurd top below
    · exact header
  · intro header member path accompanies
    obtain ⟨-, suffix, inside, rfl, regular⟩ := accompanies
    exact (companions header member suffix inside regular).1

theorem Surveyed.mem {headers sources : List String} (surveyed : Surveyed around root headers sources) {kind : Kind}
    {path : String} (generated : Generated around root kind path) : path ∈ headers ++ sources := by
  have member := generated.mem surveyed.closed
  cases kind with
  | header => exact List.mem_append_left _ member
  | source => exact List.mem_append_right _ member

theorem Surveyed.agrees {headers sources : List String} (surveyed : Surveyed around root headers sources) :
    Agrees around root := by
  intro kind path bytes directive generated read member
  exact surveyed.2.2.2 path (surveyed.mem generated) directive (mem_directivesAt.mpr ⟨bytes, read, member⟩)

theorem Surveyed.apart {headers sources : List String} (surveyed : Surveyed around root headers sources) :
    Apart around root := by
  intro path kind includer header below generated includes member accompanies
  obtain ⟨-, suffix, inside, rfl, regular⟩ := accompanies
  have companions := surveyed.2.2.1 header (member.mem surveyed.closed) suffix inside regular
  exact below (companions.2 includer (surveyed.mem generated) (includes_iff.mp includes))

end IncludeGraph.Proofs.StaticRules
