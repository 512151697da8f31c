import IncludeGraph.Proofs.Closure
import IncludeGraph.Proofs.Reordering
import IncludeGraph.Proofs.StaticRules

/-! Where the index does not divert quoted includes, and no file is both included and a companion, a graph is
determined without its traversal: its headers and sources are the least sets closed under includes and companions.
The order in which waiting files are read has no part in it. -/

namespace IncludeGraph.Proofs.LeastClosure
open Traversal Growth Resolution Turns WorklistInvariant Reordering Builds Closure StaticRules

variable {around : Surroundings} {root : String}

/-- Under agreement the known nodes have no part in what a directive is resolved to. -/
private theorem eq_staticTarget {path : String} {directive : Directive} {child : Ref}
    (agrees : directive.quoted = true → around.index.find? directive.name = none ∨
      around.index.find? directive.name = some (candidate around (Path.dirname path) directive.name))
    (means : MayMean around path directive child) : child = staticTarget around path directive := by
  cases means with
  | own quoted => simp [staticTarget, quoted]
  | @indexed target known =>
    by_cases quoted : directive.quoted = true
    · rcases agrees quoted with unknown | same
      · rw [unknown] at known
        cases known
      · rw [known] at same
        simp [staticTarget, quoted, Option.some.inj same]
    · simp [staticTarget, quoted, known]
  | system angled unknown => simp [staticTarget, angled, unknown]

private theorem eq_map_staticTarget {path : String} {directives : List Directive} {children : List Ref}
    (agrees : ∀ directive ∈ directives, directive.quoted = true → around.index.find? directive.name = none ∨
      around.index.find? directive.name = some (candidate around (Path.dirname path) directive.name))
    (means : List.Forall₂ (MayMean around path) directives children) :
    children = directives.map (staticTarget around path) := by
  induction means with
  | nil => rfl
  | cons first _ ih =>
    rw [List.map_cons, eq_staticTarget (agrees _ (by simp)) first, ← ih fun _ member => agrees _ (by simp [member])]

/-- What is known of a generated file that was read. -/
private theorem children_static {nodes systems : Table String Node} {path : String} {node : Node} {bytes : List UInt8}
    (agrees : Agrees around root) (generated : Generated around root node.kind path)
    (visited : Visited around nodes systems path node) (opened : around.files.read path = .ok bytes) :
    node.children = some ((directivesOf bytes).map (staticTarget around path)) := by
  cases visited with
  | missing absent => simp [absent] at opened
  | @opened other children read _ listed means =>
    obtain rfl := Except.ok.inj (read.symm.trans opened)
    rw [listed, eq_map_staticTarget (fun directive => agrees _ path other directive generated opened) means]

/-- Nothing is met that the rules do not generate. -/
theorem generated_of_found {state : Traversal} (valid : Invariant around root state) (agrees : Agrees around root)
    {path : String} {node : Node} (found : state.nodes.find? path = some node) :
    Generated around root node.kind path := by
  have ascends := valid.ascends path ((Table.mem_keys_iff _ _).mpr ⟨node, found⟩)
  obtain ⟨top, rooted, source, -⟩ := valid.rooted
  have rootly : ∀ node, state.nodes.find? root = some node → Generated around root node.kind root := by
    intro node found
    obtain rfl := Option.some.inj (rooted.symm.trans found)
    exact source ▸ .root
  -- Along the parents up to the root: what a generated parent introduces is generated.
  induction ascends using Relation.ReflTransGen.head_induction_on generalizing node with
  | refl => exact rootly node found
  | @head path parent link _ ih =>
    by_cases below : path = root
    · subst below
      exact rootly node found
    · obtain ⟨known, there, by_⟩ := link
      obtain rfl := Option.some.inj (there.symm.trans found)
      obtain ⟨introducer, origin, children, same, present, resolved, listed, how⟩ :=
        valid.introduced path known found below
      obtain rfl := Option.some.inj (same.symm.trans by_)
      have generated := ih present
      have visited := valid.visited introducer origin present resolved
      generalize known.kind = kind at how ⊢
      cases visited with
      | missing _ _ none => simp [none] at listed
      | opened read =>
        cases how with
        | included child =>
          rw [children_static agrees generated (valid.visited introducer origin present resolved) read] at listed
          rw [← Option.some.inj listed] at child
          obtain ⟨directive, member, target⟩ := List.mem_map.mp child
          exact .includes generated ⟨_, directive, read, member, target⟩ below
        | accompanied header companion =>
          rw [header] at generated
          exact .companion generated ⟨⟨_, read⟩, companion⟩

/-- A graph is told by its root, the index and the files: its headers and sources are the least closed sets, and the
children of a file are the static targets of its directives. -/
structure Characterised (around : Surroundings) (root : String) (graph : Graph) : Prop where
  least : IsLeast {pair : Set String × Set String | Closed around root pair.1 pair.2}
    ({path | path ∈ graph.headers}, {path | path ∈ graph.sources})
  children : ∀ path node bytes, graph.nodes.find? path = some node → around.files.read path = .ok bytes →
    node.children = some ((directivesOf bytes).map (staticTarget around path))

theorem mem_pathsOf {state : Traversal} (valid : Invariant around root state) (idle : state.worklist = [])
    (kind : Kind) (path : String) : path ∈ (Graph.ofTraversal root state).pathsOf kind ↔
      ∃ node, state.nodes.find? path = some node ∧ node.kind = kind := by
  have located := (closes_of_idle valid idle).located
  rw [Graph.pathsOf, Text.mem_descending, List.mem_map]
  constructor
  · intro ⟨node, member, own⟩
    obtain ⟨inside, same⟩ := List.mem_filter.mp member
    obtain ⟨key, found⟩ := (Table.mem_values_iff valid.distinct node).mp inside
    exact ⟨node, own ▸ (located key node found).1 ▸ found, by simpa using same⟩
  · intro ⟨node, found, same⟩
    refine ⟨node, List.mem_filter.mpr ⟨?_, by simpa using same⟩, (located path node found).1⟩
    exact (Table.mem_values_iff valid.distinct node).mpr ⟨path, found⟩

private theorem found_of_pathsOf {state : Traversal} (valid : Invariant around root state) (idle : state.worklist = [])
    {kind : Kind} {path : String} (member : path ∈ (Graph.ofTraversal root state).pathsOf kind) :
    ∃ node, state.nodes.find? path = some node := by
  obtain ⟨node, found, -⟩ := (mem_pathsOf valid idle kind path).mp member
  exact ⟨node, found⟩

private theorem found_of_key {state : Traversal} (valid : Invariant around root state) (agrees : Agrees around root)
    {path : String} (member : path ∈ state.nodes.keys) :
    ∃ node, state.nodes.find? path = some node ∧ Generated around root node.kind path := by
  obtain ⟨node, found⟩ := (Table.mem_keys_iff _ _).mp member
  exact ⟨node, found, generated_of_found valid agrees found⟩

/-- Once nothing waits, everything the rules demand was met, and as the kind that they demand. -/
theorem closed_of_idle {state : Traversal} (valid : Invariant around root state) (idle : state.worklist = [])
    (agrees : Agrees around root) (apart : Apart around root) :
    Closed around root {path | path ∈ (Graph.ofTraversal root state).headers}
      {path | path ∈ (Graph.ofTraversal root state).sources} := by
  have closes := closes_of_idle valid idle
  refine ⟨?_, ?_, ?_⟩
  · obtain ⟨node, found, source, -⟩ := valid.rooted
    exact (mem_pathsOf valid idle .source root).mpr ⟨node, found, source⟩
  · intro path member target ⟨bytes, directive, read, inside, static⟩ below
    obtain ⟨node, found⟩ : ∃ node, state.nodes.find? path = some node := by
      rcases member with header | source
      · exact found_of_pathsOf valid idle header
      · exact found_of_pathsOf valid idle source
    have generated := generated_of_found valid agrees found
    have visited := valid.visited path node found (resolved_of_idle valid idle found)
    obtain ⟨children, listed, -, known⟩ := closes.children path node bytes found read
    obtain rfl := Option.some.inj (listed.symm.trans (children_static agrees generated visited read))
    have child : .file target ∈ (directivesOf bytes).map (staticTarget around path) :=
      List.mem_map.mpr ⟨directive, inside, static⟩
    obtain ⟨other, there, demanded⟩ := found_of_key valid agrees (known _ child)
    refine (mem_pathsOf valid idle .header target).mpr ⟨other, there, ?_⟩
    -- It was met, but perhaps as the other kind: this is where the two kinds have to be kept apart.
    have header : Generated around root .header target := .includes generated ⟨_, _, read, inside, static⟩ below
    cases same : other.kind with
    | header => rfl
    | source => exact absurd (same ▸ demanded) (header.not_both apart below)
  · intro path member companion accompanies
    obtain ⟨⟨bytes, read⟩, suffix, inside, rfl, regular⟩ := accompanies
    obtain ⟨node, found, header⟩ := (mem_pathsOf valid idle .header path).mp member
    have generated := header ▸ generated_of_found valid agrees found
    obtain ⟨other, there, demanded⟩ := found_of_key valid agrees
      (closes.companions path node bytes found header read suffix inside regular)
    refine (mem_pathsOf valid idle .source _).mpr ⟨other, there, ?_⟩
    have source : Generated around root .source (companionPath path suffix) :=
      .companion generated ⟨⟨bytes, read⟩, suffix, inside, rfl, regular⟩
    cases same : other.kind with
    | source => rfl
    | header =>
      by_cases top : companionPath path suffix = root
      · obtain ⟨start, present, kind, -⟩ := valid.rooted
        rw [top, present] at there
        rw [Option.some.inj there] at kind
        exact absurd (kind.symm.trans same) (by simp)
      · exact absurd source (Generated.not_both apart top (same ▸ demanded))

/-- The lists hold what the rules generate: nothing else is met, and all of it was, since the lists are closed. -/
theorem mem_pathsOf_iff_generated {state : Traversal} (valid : Invariant around root state)
    (idle : state.worklist = []) (agrees : Agrees around root) (apart : Apart around root) (kind : Kind) (path : String) :
    path ∈ (Graph.ofTraversal root state).pathsOf kind ↔ Generated around root kind path := by
  constructor
  · intro member
    obtain ⟨node, found, rfl⟩ := (mem_pathsOf valid idle kind path).mp member
    exact generated_of_found valid agrees found
  · intro generated
    have member := generated.mem (closed_of_idle valid idle agrees apart)
    cases kind with
    | header => exact member
    | source => exact member

theorem characterised_of_idle {state : Traversal} (valid : Invariant around root state) (idle : state.worklist = [])
    (agrees : Agrees around root) (apart : Apart around root) :
    Characterised around root (Graph.ofTraversal root state) := by
  constructor
  · have lists : ∀ kind, {path | path ∈ (Graph.ofTraversal root state).pathsOf kind} =
        {path | Generated around root kind path} :=
      fun kind => Set.ext fun path => mem_pathsOf_iff_generated valid idle agrees apart kind path
    have least := generated_isLeast around root
    rw [← lists .header, ← lists .source] at least
    exact least
  · intro path node bytes found read
    exact children_static agrees (generated_of_found valid agrees found)
      (valid.visited path node found (resolved_of_idle valid idle found)) read

private theorem pathsOf_congr {first second : Graph} {kind : Kind}
    (same : ∀ path, path ∈ first.pathsOf kind ↔ path ∈ second.pathsOf kind) :
    first.pathsOf kind = second.pathsOf kind := by
  apply Text.descending_congr
  intro path
  simpa only [Graph.pathsOf, Text.mem_descending] using same path

theorem Characterised.lists {first second : Graph} (one : Characterised around root first)
    (other : Characterised around root second) : first.headers = second.headers ∧ first.sources = second.sources := by
  obtain ⟨headers, sources⟩ := Prod.mk.inj (one.least.unique other.least)
  refine ⟨pathsOf_congr fun path => ?_, pathsOf_congr fun path => ?_⟩
  · exact Set.ext_iff.mp headers path
  · exact Set.ext_iff.mp sources path

/-- However the waiting files are ordered before each step, the work goes on to an end, with the same headers, sources
and children. -/
structure OrderFree (around : Surroundings) (root : String) (graph : Graph) : Prop where
  ends : WellFounded fun after before => Reorders around before after
  proceeds : ∀ state, Relation.ReflTransGen (Reorders around) (start around.index root) state →
    ∀ order, order.Perm state.worklist → order ≠ [] → ∃ after, step around (reordered state order) = .next after
  same : ∀ last, Relation.ReflTransGen (Reorders around) (start around.index root) last → last.worklist = [] →
    Characterised around root (Graph.ofTraversal root last) ∧
      (Graph.ofTraversal root last).headers = graph.headers ∧ (Graph.ofTraversal root last).sources = graph.sources

/-- Where the rules are met, only files that open or are missing are ever read. -/
private theorem reads_of_generated {last : Traversal} (valid : Invariant around root last) (idle : last.worklist = [])
    (characterised : Characterised around root (Graph.ofTraversal root last)) {kind : Kind} {path : String}
    (generated : Generated around root kind path) :
    (∃ bytes, around.files.read path = .ok bytes) ∨ around.files.read path = .error .missing := by
  obtain ⟨node, found⟩ : ∃ node, last.nodes.find? path = some node := by
    have member := generated.mem characterised.least.1
    cases kind with
    | header => exact found_of_pathsOf valid idle member
    | source => exact found_of_pathsOf valid idle member
  cases valid.visited path node found (resolved_of_idle valid idle found) with
  | missing absent => exact Or.inr absent
  | opened read => exact Or.inl ⟨_, read⟩

theorem orderFree_of_finishes {last : Traversal} (finishes : Finishes around root last)
    (agrees : Agrees around root) (apart : Apart around root) :
    OrderFree around root (Graph.ofTraversal root last) := by
  have characterised := characterised_of_idle finishes.invariant finishes.idle agrees apart
  refine ⟨reorders_wellFounded around, ?_, ?_⟩
  · intro state runs order same waits
    have valid := invariant_reordered (invariant_run (.initial around around.index root) runs) same
    cases stepped : step around (reordered state order) with
    | next after => exact ⟨after, rfl⟩
    | done => exact absurd (valid.toOrderly.idle_of_done stepped) waits
    | failed final failure =>
      -- A file that is refused here would be one of the built graph, where every file opens or is missing.
      obtain ⟨path, node, fault, found, -, refused, other, -⟩ := valid.toOrderly.failed stepped
      have generated := generated_of_found valid agrees found
      rcases reads_of_generated finishes.invariant finishes.idle characterised generated with ⟨bytes, read⟩ | absent
      · rw [refused] at read
        cases read
      · rw [refused] at absent
        exact absurd (Except.error.inj absent) other
  · intro final runs idle
    have valid := invariant_run (.initial around around.index root) runs
    have reached := characterised_of_idle valid idle agrees apart
    exact ⟨reached, reached.lists characterised⟩

/-- Where the index does not divert quoted includes and no file is both included and a companion, a graph is the least
closure of its root, and the order in which files are read has no part in it. -/
theorem build_least {files : FileSystem} {root : String} {directories : List IncludeDirectory} {options : Options}
    {index : HeaderIndex} {graph : Graph}
    (indexed : (HeaderIndex.build files options.headerSuffixes directories).2 = .ok index)
    (built : (Graph.build files root directories options).2 = .ok graph)
    (agrees : Agrees ⟨files, index, options⟩ (Path.absolute files.currentPath root))
    (apart : Apart ⟨files, index, options⟩ (Path.absolute files.currentPath root)) :
    Characterised ⟨files, index, options⟩ (Path.absolute files.currentPath root) graph ∧
      OrderFree ⟨files, index, options⟩ (Path.absolute files.currentPath root) graph := by
  obtain ⟨other, last, same, finishes, rfl⟩ := build_ok_iff.mp built
  obtain rfl := Except.ok.inj (same.symm.trans indexed)
  exact ⟨characterised_of_idle finishes.invariant finishes.idle agrees apart,
    orderFree_of_finishes finishes agrees apart⟩

private theorem knot_surveyed :
    Surveyed ⟨knot, knotIndex, {}⟩ (Path.absolute knot.currentPath "m.cpp") knotGraph.headers knotGraph.sources := by
  decide +kernel

theorem build_least_knot : Agrees ⟨knot, knotIndex, {}⟩ (Path.absolute knot.currentPath "m.cpp") ∧
    Apart ⟨knot, knotIndex, {}⟩ (Path.absolute knot.currentPath "m.cpp") ∧
    Characterised ⟨knot, knotIndex, {}⟩ (Path.absolute knot.currentPath "m.cpp") knotGraph ∧
    OrderFree ⟨knot, knotIndex, {}⟩ (Path.absolute knot.currentPath "m.cpp") knotGraph := by
  refine ⟨knot_surveyed.agrees, knot_surveyed.apart, ?_⟩
  exact build_least knot_indexed knot_built knot_surveyed.agrees knot_surveyed.apart

end IncludeGraph.Proofs.LeastClosure
