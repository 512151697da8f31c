import IncludeGraph.Proofs.Growth

/-! How the work on one file introduces nodes. The table of known nodes decides which of the possible nodes a
directive is resolved to, but the possible nodes themselves depend on the file, the index and the directive. -/

namespace IncludeGraph.Proofs.Resolution
open Traversal Growth

/-- The nodes that a directive of a file may be resolved to. A quoted directive may mean its own path although the
index has its name, but then only if that path is known already. -/
inductive MayMean (around : Surroundings) (path : String) (directive : Directive) : Ref → Prop where
  | own (quoted : directive.quoted = true) :
    MayMean around path directive (.file (candidate around (Path.dirname path) directive.name))
  | indexed {target} (known : around.index.find? directive.name = some target) :
    MayMean around path directive (.file target)
  | system (angled : directive.quoted = false) (unknown : around.index.find? directive.name = none) :
    MayMean around path directive (.system directive.name)

theorem exists_related {α β : Type} {relation : α → β → Prop} {items : List α} {others : List β}
    (related : List.Forall₂ relation items others) {other : β} (member : other ∈ others) :
    ∃ item ∈ items, relation item other := by
  induction related with
  | nil => cases member
  | cons head _ ih =>
    rcases List.mem_cons.mp member with rfl | later
    · exact ⟨_, List.mem_cons_self, head⟩
    · obtain ⟨item, inside, holds⟩ := ih later
      exact ⟨item, List.mem_cons_of_mem _ inside, holds⟩

def Known (nodes systems : Table String Node) : Ref → Prop
  | .file path => path ∈ nodes.keys
  | .system name => name ∈ systems.keys

theorem Known.mono {nodes systems laterNodes laterSystems : Table String Node} {child : Ref}
    (files : ∀ path ∈ nodes.keys, path ∈ laterNodes.keys) (names : ∀ name ∈ systems.keys, name ∈ laterSystems.keys)
    (known : Known nodes systems child) : Known laterNodes laterSystems child := by
  cases child with
  | file path => exact files path known
  | system name => exact names name known

theorem Known.grow {parent gain before after} (grows : Grows parent gain before after) {child : Ref}
    (known : Known before.nodes before.systems child) : Known after.nodes after.systems child := by
  apply known.mono
  · intro path member
    rw [grows.keys]
    exact List.mem_append_left _ member
  · intro name member
    rw [grows.systemKeys]
    exact List.mem_append_left _ member

theorem grows_add (state : Traversal) (kind : Kind) (path parent : String) (new : ¬ state.nodes.contains path = true) :
    Grows parent { files := [⟨kind, path⟩] } state (state.add kind path (some parent)) := by
  have absent : state.nodes.find? path = none := by simpa [Table.contains] using new
  constructor <;>
    simp [add, detach, absent, Table.insert, Table.replace_of_absent absent, Newcomer.entry, Newcomer.node]

/-- What resolving one directive adds is a header that it is resolved to, or a system include of its name. -/
structure Resolved (around : Surroundings) (path : String) (directive : Directive) (before : Traversal) (child : Ref)
    (gain : Gain) (after : Traversal) : Prop where
  grows : Grows path gain before after
  means : MayMean around path directive child
  known : Known after.nodes after.systems child
  files : ∀ file ∈ gain.files, file.kind = .header ∧ child = .file file.path
  systems : ∀ name ∈ gain.systems, child = .system name
  problems : gain.problems = []

private theorem resolved_meet {around : Surroundings} {path target : String} {directive : Directive} (state : Traversal)
    (means : MayMean around path directive (.file target)) :
    ∃ gain, Resolved around path directive state (state.meet target path).1 gain (state.meet target path).2 := by
  by_cases old : state.nodes.contains target = true
  · refine ⟨{}, ?_⟩
    simp only [meet, old, if_true]
    exact ⟨.refl path state, means, (Table.contains_iff _ _).mp old, by simp, by simp, rfl⟩
  · refine ⟨{ files := [⟨.header, target⟩] }, ?_⟩
    simp only [meet, old, if_false, Bool.false_eq_true]
    have grows := grows_add state .header target path old
    have added := grows.added (List.mem_singleton.mpr rfl)
    exact ⟨grows, means, (Table.mem_keys_iff _ _).mpr ⟨_, added⟩, by simp, by simp, rfl⟩

private theorem resolved_meetSystem {around : Surroundings} {path : String} {directive : Directive} (state : Traversal)
    (means : MayMean around path directive (.system directive.name)) :
    ∃ gain, Resolved around path directive state (state.meetSystem directive.name path).1 gain
      (state.meetSystem directive.name path).2 := by
  by_cases old : state.systems.contains directive.name = true
  · refine ⟨{}, ?_⟩
    simp only [meetSystem, old, if_true]
    exact ⟨.refl path state, means, (Table.contains_iff _ _).mp old, by simp, by simp, rfl⟩
  · have absent : state.systems.find? directive.name = none := by simpa [Table.contains] using old
    refine ⟨{ systems := [directive.name] }, ?_⟩
    simp only [meetSystem, old, if_false, Bool.false_eq_true]
    have grows : Grows path { systems := [directive.name] } state
        { state with systems := state.systems.insert directive.name (systemNode directive.name path) } := by
      constructor <;> simp [Table.insert, Table.replace_of_absent absent, absent]
    refine ⟨grows, means, ?_, by simp, by simp, rfl⟩
    exact (Table.mem_keys_iff _ _).mpr ⟨_, Table.find?_insert_self _ _ _⟩

/-- What a directive is resolved to depends on the working directory and the index alone. -/
theorem resolve_congr {first second : Surroundings} (here : first.files.currentPath = second.files.currentPath)
    (lookups : ∀ name, first.index.find? name = second.index.find? name) (state : Traversal) (parent directory : String)
    (directive : Directive) :
    resolve first state parent directory directive = resolve second state parent directory directive := by
  have own : candidate first directory directive.name = candidate second directory directive.name := by
    simp only [candidate, here]
  unfold resolve
  rw [own, lookups]

theorem resolve_resolved (around : Surroundings) (state : Traversal) (path : String) (directive : Directive) :
    ∃ gain, Resolved around path directive state (resolve around state path (Path.dirname path) directive).1 gain
      (resolve around state path (Path.dirname path) directive).2 := by
  simp only [resolve]
  split
  next own =>
    obtain ⟨quoted, old⟩ := Bool.and_eq_true_iff.mp own
    exact ⟨{}, .refl path state, .own quoted, (Table.contains_iff _ _).mp old, by simp, by simp, rfl⟩
  next =>
    split
    next target known => exact resolved_meet state (.indexed known)
    next unknown =>
      split
      next quoted => exact resolved_meet state (.own quoted)
      next angled => exact resolved_meetSystem state (.system (by simpa using angled) unknown)

def directivesOf (bytes : List UInt8) : List Directive := (Finding.scan (readText bytes)).filterMap Finding.directive?

def problemsOf (path : String) (findings : List Finding) : List Diagnostic :=
  (findings.filterMap Finding.malformed?).map fun (line, text) => .malformed path line text

/-- What the directives of a file add to a traversal, and the children that they get, one for each and in line order.
Only headers and system includes come in that way. -/
structure Linked (around : Surroundings) (path : String) (findings : List Finding) (before : Traversal)
    (children : List Ref) (gain : Gain) (after : Traversal) : Prop where
  grows : Grows path gain before after
  means : List.Forall₂ (MayMean around path) (findings.filterMap Finding.directive?) children
  known : ∀ child ∈ children, Known after.nodes after.systems child
  files : ∀ file ∈ gain.files, file.kind = .header ∧ .file file.path ∈ children
  systems : ∀ name ∈ gain.systems, .system name ∈ children
  problems : gain.problems = problemsOf path findings

theorem link_linked (around : Surroundings) (path : String) (findings : List Finding) (state : Traversal) :
    ∃ gain, Linked around path findings state (link around path state findings).1 gain
      (link around path state findings).2 := by
  induction findings generalizing state with
  | nil => exact ⟨{}, .refl path state, .nil, by simp [link], by simp, by simp, rfl⟩
  | cons finding rest ih =>
    cases finding with
    | malformed line text =>
      obtain ⟨gain, linked⟩ := ih
        ((state.tell (Finding.malformedRecord path line text)).note (.malformed path line text))
      have noted := (Grows.tell path state (Finding.malformedRecord path line text)).trans
        (.note path _ (.malformed path line text))
      refine ⟨_, noted.trans linked.grows, linked.means, linked.known, linked.files, linked.systems, ?_⟩
      exact congrArg (Diagnostic.malformed path line text :: ·) linked.problems
    | directive directive =>
      obtain ⟨first, resolved⟩ := resolve_resolved around state path directive
      obtain ⟨gain, linked⟩ := ih ((resolve around state path (Path.dirname path) directive).2.detail around.options
        (path ++ " -> " ++ (resolve around state path (Path.dirname path) directive).1.text))
      -- Between two directives only a detail is told, which adds nothing.
      have told := (Grows.detail path (resolve around state path (Path.dirname path) directive).2 around.options
        (path ++ " -> " ++ (resolve around state path (Path.dirname path) directive).1.text)).trans linked.grows
      refine ⟨_, resolved.grows.trans told, .cons resolved.means linked.means, ?_, ?_, ?_, ?_⟩
      · intro child member
        rcases List.mem_cons.mp member with rfl | later
        · exact resolved.known.grow told
        · exact linked.known child later
      · intro file member
        rcases List.mem_append.mp member with early | late
        · obtain ⟨kind, same⟩ := resolved.files file early
          exact ⟨kind, List.mem_cons.mpr (Or.inl same.symm)⟩
        · obtain ⟨kind, inside⟩ := linked.files file late
          exact ⟨kind, List.mem_cons_of_mem _ inside⟩
      · intro name member
        rcases List.mem_append.mp member with early | late
        · exact List.mem_cons.mpr (Or.inl (resolved.systems name early).symm)
        · exact List.mem_cons_of_mem _ (linked.systems name late)
      · change first.problems ++ gain.problems = _
        rw [resolved.problems, linked.problems]
        rfl

/-- A companion of a header: a regular file at one of the paths that are probed next to it. -/
def Companion (around : Surroundings) (header path : String) : Prop :=
  ∃ suffix ∈ around.options.companionSuffixes, companionPath header suffix = path ∧ around.files.isFile path = true

/-- What the companions of a header add: sources at the probed paths, for every regular file there that is not known
yet. -/
structure Accompanied (around : Surroundings) (header : String) (suffixes : List String) (before : Traversal)
    (gain : Gain) (after : Traversal) : Prop where
  grows : Grows header gain before after
  files : ∀ file ∈ gain.files, file.kind = .source ∧ around.files.isFile file.path = true ∧
    ∃ suffix ∈ suffixes, companionPath header suffix = file.path
  complete : ∀ suffix ∈ suffixes, around.files.isFile (companionPath header suffix) = true →
    companionPath header suffix ∈ after.nodes.keys
  systems : gain.systems = []
  problems : gain.problems = []

private theorem Accompanied.cons {around : Surroundings} {header suffix : String} {rest : List String}
    {before middle after : Traversal} {first gain : Gain} (start : Grows header first before middle)
    (files : ∀ file ∈ first.files, file.kind = .source ∧ around.files.isFile file.path = true ∧
      companionPath header suffix = file.path)
    (present : around.files.isFile (companionPath header suffix) = true →
      companionPath header suffix ∈ middle.nodes.keys)
    (systems : first.systems = []) (problems : first.problems = [])
    (others : Accompanied around header rest middle gain after) :
    Accompanied around header (suffix :: rest) before (first ++ gain) after := by
  refine ⟨start.trans others.grows, ?_, ?_, ?_, ?_⟩
  · intro file member
    rcases List.mem_append.mp member with early | late
    · obtain ⟨kind, regular, same⟩ := files file early
      exact ⟨kind, regular, suffix, by simp, same⟩
    · obtain ⟨kind, regular, other, inside, same⟩ := others.files file late
      exact ⟨kind, regular, other, by simp [inside], same⟩
  · intro other member regular
    rcases List.mem_cons.mp member with rfl | later
    · rw [others.grows.keys]
      exact List.mem_append_left _ (present regular)
    · exact others.complete other later regular
  · change first.systems ++ gain.systems = []
    rw [systems, others.systems, List.append_nil]
  · change first.problems ++ gain.problems = []
    rw [problems, others.problems, List.append_nil]

theorem addCompanions_accompanied (around : Surroundings) (header : String) (suffixes : List String)
    (state : Traversal) :
    ∃ gain, Accompanied around header suffixes state gain (addCompanions around header state suffixes) := by
  induction suffixes generalizing state with
  | nil => exact ⟨{}, .refl header state, by simp, by simp, rfl, rfl⟩
  | cons suffix rest ih =>
    simp only [addCompanions]
    split
    next regular =>
      have told := Grows.detail header state around.options
        ("Source found for " ++ header ++ ": " ++ companionPath header suffix)
      split
      next old =>
        obtain ⟨gain, others⟩ := ih (state.detail around.options
          ("Source found for " ++ header ++ ": " ++ companionPath header suffix))
        exact ⟨_, .cons told (by simp) (fun _ => (Table.contains_iff _ _).mp old) rfl rfl others⟩
      next new =>
        obtain ⟨gain, others⟩ := ih ((state.detail around.options
          ("Source found for " ++ header ++ ": " ++ companionPath header suffix)).add .source
            (companionPath header suffix) (some header))
        have grows := grows_add _ .source (companionPath header suffix) header new
        refine ⟨_, .cons (told.trans grows) ?_ (fun _ => ?_) (by simp) (by simp) others⟩
        · simpa using regular
        · simp [grows.keys]
    next irregular =>
      obtain ⟨gain, others⟩ := ih state
      exact ⟨_, .cons (.refl header state) (by simp) (fun regular => absurd regular irregular) rfl rfl others⟩

/-- How a file of some kind with some children introduces another file: as a header among its children, or, where it
is a header itself, as a source next to it. -/
inductive Introduces (around : Surroundings) (parent : String) (kind : Kind) (children : List Ref) :
    Kind → String → Prop where
  | included {path} (child : .file path ∈ children) : Introduces around parent kind children .header path
  | accompanied {path} (header : kind = .header) (companion : Companion around parent path) :
    Introduces around parent kind children .source path

/-- What the work on a file that opens comes to, before its node is marked as read: first the companions, if it is a
header, and then what its directives are resolved to. -/
structure Opened (around : Surroundings) (path : String) (kind : Kind) (bytes : List UInt8) (children : List Ref)
    (gain : Gain) (before after : Traversal) : Prop where
  grows : Grows path gain before after
  means : List.Forall₂ (MayMean around path) (directivesOf bytes) children
  known : ∀ child ∈ children, Known after.nodes after.systems child
  files : ∀ file ∈ gain.files, Introduces around path kind children file.kind file.path
  companions : kind = .header → ∀ other, Companion around path other → other ∈ after.nodes.keys
  systems : ∀ name ∈ gain.systems, .system name ∈ children
  problems : gain.problems = problemsOf path (Finding.scan (readText bytes))

private theorem opened (around : Surroundings) (path : String) (kind : Kind) (bytes : List UInt8)
    (state : Traversal) :
    let accompanied :=
      if kind = .header then addCompanions around path state around.options.companionSuffixes else state
    let (children, linked) := link around path accompanied (Finding.scan (readText bytes))
    ∃ gain, Opened around path kind bytes children gain state linked := by
  intro accompanied
  obtain ⟨later, linked⟩ := link_linked around path (Finding.scan (readText bytes)) accompanied
  by_cases header : kind = .header
  · obtain ⟨early, probed⟩ := addCompanions_accompanied around path around.options.companionSuffixes state
    have same : accompanied = addCompanions around path state around.options.companionSuffixes := by
      simp only [accompanied, header, if_true]
    rw [← same] at probed
    refine ⟨early ++ later, probed.grows.trans linked.grows, linked.means, linked.known, ?_, ?_, ?_, ?_⟩
    · intro file member
      rcases List.mem_append.mp member with companion | included
      · obtain ⟨source, regular, suffix, inside, path⟩ := probed.files file companion
        exact source ▸ .accompanied header ⟨suffix, inside, path, regular⟩
      · obtain ⟨isHeader, child⟩ := linked.files file included
        exact isHeader ▸ .included child
    · rintro _ other ⟨suffix, inside, rfl, regular⟩
      rw [linked.grows.keys]
      exact List.mem_append_left _ (probed.complete suffix inside regular)
    · simpa [probed.systems] using linked.systems
    · simpa [probed.problems] using linked.problems
  · have same : accompanied = state := by simp only [accompanied, header, if_false]
    rw [← same]
    refine ⟨later, linked.grows, linked.means, linked.known, ?_, fun is => absurd is header, linked.systems,
      linked.problems⟩
    intro file member
    obtain ⟨isHeader, child⟩ := linked.files file member
    exact isHeader ▸ .included child

def readNode (node : Node) (children : List Ref) : Node := { node with status := .resolved, children := some children }

def missingNode (node : Node) (path : String) : Node := { node with target := .file path false, status := .resolved }

/-- What the work on a node comes to, and the node as it is marked then. A missing file is reported and gains nothing
else. -/
inductive Reads (around : Surroundings) (path : String) (node : Node) (before after : Traversal) :
    Gain → Node → Prop where
  | missing (absent : around.files.read path = .error .missing)
      (grows : Grows path { problems := [.missing path] } before after) :
    Reads around path node before after { problems := [.missing path] } (missingNode node path)
  | opened {bytes children gain} (found : around.files.read path = .ok bytes)
      (opens : Opened around path node.kind bytes children gain before after) :
    Reads around path node before after gain (readNode node children)

theorem Reads.grows {around : Surroundings} {path : String} {node new : Node} {before after : Traversal} {gain : Gain}
    (reads : Reads around path node before after gain new) : Grows path gain before after := by
  cases reads with
  | missing absent grows => exact grows
  | opened found opens => exact opens.grows

theorem process_reads {around : Surroundings} {state after : Traversal} {path : String} {node : Node} {present : Bool}
    (own : node.target = .file path present) (processed : process around state (.listed path) node = (after, none)) :
    ∃ gain middle new, Reads around path node (state.usePath (Path.dirname path)) middle gain new ∧
      after = middle.setNode (.listed path) new := by
  obtain ⟨kind, target, status, parent, children⟩ := node
  subst own
  simp only [process, Item.readPath] at processed
  split at processed
  next absent =>
    obtain ⟨rfl, -⟩ := Prod.mk.inj processed
    have grows := (Grows.tell path (state.usePath (Path.dirname path))
      ⟨.warning, .graph, "Cannot find relative include '" ++ path ++ "'"⟩).trans (.note path _ (.missing path))
    exact ⟨_, _, _, .missing absent grows, rfl⟩
  · simp at processed
  · simp at processed
  next bytes found =>
    obtain ⟨rfl, -⟩ := Prod.mk.inj processed
    obtain ⟨gain, opens⟩ := opened around path kind bytes (state.usePath (Path.dirname path))
    exact ⟨gain, _, _, .opened found opens, rfl⟩

/-- A file that neither opens nor is missing ends the work, with all nodes as they were. -/
theorem process_fails {around : Surroundings} {state last : Traversal} {path : String} {node : Node} {present : Bool}
    {failure : Failure} (own : node.target = .file path present)
    (processed : process around state (.listed path) node = (last, some failure)) :
    ∃ fault, around.files.read path = .error fault ∧ fault ≠ .missing ∧ last = state.usePath (Path.dirname path) ∧
      failure = if fault = .nullByte then .nullByte else .unreadable path fault := by
  simp only [process, own, Item.readPath] at processed
  split at processed
  · simp at processed
  next refused =>
    obtain ⟨rfl, same⟩ := Prod.mk.inj processed
    exact ⟨.nullByte, refused, by simp, rfl, by simpa using same.symm⟩
  next fault absent null refused =>
    obtain ⟨rfl, same⟩ := Prod.mk.inj processed
    have other : fault ≠ .nullByte := null
    exact ⟨fault, refused, absent, rfl, by simpa [other] using same.symm⟩
  · simp at processed

end IncludeGraph.Proofs.Resolution
