import IncludeGraph.Proofs.QueueDiscipline

/-! The directives of a run in the order in which they are resolved, each with the state in which that happens. The
path of a file that is known at some moment is the root, a companion, or the child of a directive resolved before. -/

namespace IncludeGraph.Proofs.History
open Traversal Growth Resolution Turns WorklistInvariant Builds QueueDiscipline Traces

/-- A directive of a file as it is resolved to a child in some state. The state is kept, because what was known then
cannot be told from the finished graph. -/
structure Moment where
  path : String
  directive : Directive
  state : Traversal
  child : Ref

def Moment.own (around : Surroundings) (moment : Moment) : String :=
  candidate around (Path.dirname moment.path) moment.directive.name

def momentsIn (around : Surroundings) (path : String) (state : Traversal) : List Finding → List Moment
  | [] => []
  | .malformed line text :: rest =>
    momentsIn around path ((state.tell (Finding.malformedRecord path line text)).note (.malformed path line text)) rest
  | .directive directive :: rest =>
    let (child, met) := resolve around state path (Path.dirname path) directive
    let told := met.detail around.options (path ++ " -> " ++ child.text)
    ⟨path, directive, state, child⟩ :: momentsIn around path told rest

/-- The state in which the directives of the next file are linked: its companions are already queued, so that an
include of a companion finds it known. -/
def accompanied (around : Surroundings) (state : Traversal) (path : String) (kind : Kind) : Traversal :=
  if kind = .header then addCompanions around path (taken state path) around.options.companionSuffixes
  else taken state path

def momentsAt (around : Surroundings) (state : Traversal) (path : String) : List Moment :=
  match state.nodes.find? path, around.files.read path with
  | some node, .ok bytes =>
    momentsIn around path (accompanied around state path node.kind) (Finding.scan (readText bytes))
  | _, _ => []

def moments (around : Surroundings) (state : Traversal) : List Moment :=
  (opened state).flatMap (momentsAt around state)

/-- How the child is chosen: the known nodes come before the index, and the index before what stands beside the file.
Every directive falls under exactly one of the cases. -/
inductive Chosen (around : Surroundings) (moment : Moment) : Prop where
  | known (quoted : moment.directive.quoted = true) (met : moment.own around ∈ moment.state.nodes.keys)
      (child : moment.child = .file (moment.own around))
  | indexed {target} (unmet : moment.directive.quoted = true → moment.own around ∉ moment.state.nodes.keys)
      (found : around.index.find? moment.directive.name = some target) (child : moment.child = .file target)
  | beside (quoted : moment.directive.quoted = true) (unmet : moment.own around ∉ moment.state.nodes.keys)
      (unknown : around.index.find? moment.directive.name = none) (child : moment.child = .file (moment.own around))
  | system (angled : moment.directive.quoted = false) (unknown : around.index.find? moment.directive.name = none)
      (child : moment.child = .system moment.directive.name)

/-- Why a path is known after some moments: as the root, as a companion that was probed, or as the child of a
directive that was resolved when nothing knew the path. -/
inductive Origin (around : Surroundings) (root : String) (past : List Moment) : String → Prop where
  | root : Origin around root past root
  | companion {path} (regular : around.files.isFile path = true) : Origin around root past path
  | included {path moment} (member : moment ∈ past) (child : moment.child = .file path)
      (unmet : path ∉ moment.state.nodes.keys) : Origin around root past path

structure Accounts (around : Surroundings) (root : String) (past : List Moment) (state : Traversal) : Prop where
  grown : ∀ moment ∈ past, ∀ path ∈ moment.state.nodes.keys, path ∈ state.nodes.keys
  origins : ∀ path ∈ state.nodes.keys, Origin around root past path

def Told (around : Surroundings) (root : String) (history : List Moment) : Prop :=
  ∀ past moment future, history = past ++ moment :: future →
    Accounts around root past moment.state ∧ Chosen around moment

/-- The moments of a file are its directives with its children, in the order of the lines, so that each child of the
finished graph can be traced to its line. -/
structure Recorded (around : Surroundings) (history : List Moment) (nodes : Table String Node) : Prop where
  opened : ∀ moment ∈ history, ∃ node bytes children, nodes.find? moment.path = some node ∧
    node.status = .resolved ∧ around.files.read moment.path = .ok bytes ∧ node.children = some children
  lines : ∀ path node bytes children, nodes.find? path = some node → around.files.read path = .ok bytes →
    node.children = some children →
    (history.filter (·.path = path)).map (fun moment => (moment.directive, moment.child)) =
      (directivesOf bytes).zip children

variable {around : Surroundings} {root path parent : String} {node new : Node} {gain : Gain} {moment : Moment}
  {past recent history : List Moment} {state before middle after : Traversal}

theorem resolve_chosen (around : Surroundings) (state : Traversal) (path : String) (directive : Directive) :
    Chosen around ⟨path, directive, state, (resolve around state path (Path.dirname path) directive).1⟩ := by
  simp only [resolve]
  split
  next own =>
    obtain ⟨quoted, met⟩ := Bool.and_eq_true_iff.mp own
    exact .known quoted ((Table.contains_iff _ _).mp met) rfl
  next other =>
    have unmet : directive.quoted = true →
        candidate around (Path.dirname path) directive.name ∉ state.nodes.keys := by
      intro quoted met
      exact other (by simp [quoted, (Table.contains_iff _ _).mpr met])
    split
    next target found => exact .indexed unmet found rfl
    next unknown =>
      split
      next quoted => exact .beside quoted (unmet quoted) unknown rfl
      next angled => exact .system (by simpa using angled) unknown rfl

private theorem Origin.later (origin : Origin around root past path) (recent : List Moment) :
    Origin around root (past ++ recent) path := by
  cases origin with
  | root => exact .root
  | companion regular => exact .companion regular
  | included member child unmet => exact .included (List.mem_append_left _ member) child unmet

private theorem Accounts.keep (accounts : Accounts around root past before)
    (same : ∀ path, path ∈ after.nodes.keys ↔ path ∈ before.nodes.keys) : Accounts around root past after := by
  constructor
  · intro moment member path met
    exact (same path).mpr (accounts.grown moment member path met)
  · intro path met
    exact accounts.origins path ((same path).mp met)

private theorem Accounts.grow (accounts : Accounts around root past before) (grows : Grows parent gain before after)
    (states : ∀ moment ∈ recent, moment.state = before)
    (fresh : ∀ file ∈ gain.files, Origin around root (past ++ recent) file.path) :
    Accounts around root (past ++ recent) after := by
  constructor
  · intro moment member path met
    rw [grows.keys]
    apply List.mem_append_left
    rcases List.mem_append.mp member with early | late
    · exact accounts.grown moment early path met
    · exact states moment late ▸ met
  · intro path met
    rw [grows.keys] at met
    rcases List.mem_append.mp met with old | new
    · exact (accounts.origins path old).later recent
    · obtain ⟨file, member, rfl⟩ := List.mem_map.mp new
      exact fresh file member

private theorem Told.concat (told : Told around root past) (accounts : Accounts around root past moment.state)
    (chosen : Chosen around moment) : Told around root (past ++ [moment]) := by
  intro early event future same
  rcases List.eq_nil_or_concat future with rfl | ⟨future, last, rfl⟩
  · obtain ⟨rfl, last⟩ := List.append_inj' same rfl
    obtain rfl := List.singleton_inj.mp last
    exact ⟨accounts, chosen⟩
  · have split : past ++ [moment] = (early ++ event :: future) ++ [last] := by simpa using same
    exact told early event future (List.append_inj' split rfl).1

/-- A directive that is resolved is the reason for the node that it adds. -/
private theorem Accounts.resolve (accounts : Accounts around root past state) (path : String) (directive : Directive) :
    Accounts around root
      (past ++ [⟨path, directive, state, (Traversal.resolve around state path (Path.dirname path) directive).1⟩])
      (Traversal.resolve around state path (Path.dirname path) directive).2 := by
  obtain ⟨gain, resolved⟩ := resolve_resolved around state path directive
  refine accounts.grow resolved.grows (by simp) ?_
  intro file member
  have absent := resolved.grows.newFiles file member
  exact .included (List.mem_append_right _ (List.mem_singleton.mpr rfl)) (resolved.files file member).2
    ((Table.find?_eq_none_iff _ _).mp absent)

private theorem Accounts.detail (accounts : Accounts around root past state) (message : String) :
    Accounts around root past (state.detail around.options message) := by
  apply accounts.keep
  intro path
  simp [(Grows.detail path state around.options message).keys]

theorem link_told (findings : List Finding) (told : Told around root past)
    (accounts : Accounts around root past state) :
    Told around root (past ++ momentsIn around path state findings) ∧
      Accounts around root (past ++ momentsIn around path state findings) (link around path state findings).2 := by
  induction findings generalizing past state with
  | nil => simpa [momentsIn, link] using ⟨told, accounts⟩
  | cons finding rest ih =>
    cases finding with
    | malformed line text => exact ih told (accounts.keep fun _ => Iff.rfl)
    | directive directive =>
      have chosen := resolve_chosen around state path directive
      have linked := ih (told.concat accounts chosen) ((accounts.resolve path directive).detail
        (path ++ " -> " ++ (resolve around state path (Path.dirname path) directive).1.text))
      rw [List.append_assoc, List.singleton_append] at linked
      exact linked

private theorem momentsIn_path {findings : List Finding} (member : moment ∈ momentsIn around path state findings) :
    moment.path = path := by
  induction findings generalizing state with
  | nil => simp [momentsIn] at member
  | cons finding rest ih =>
    cases finding with
    | malformed line text => exact ih member
    | directive directive =>
      rcases List.mem_cons.mp member with rfl | later
      · rfl
      · exact ih later

/-- The moments of a file are what linking it comes to. -/
private theorem momentsIn_lines (around : Surroundings) (path : String) (state : Traversal) (findings : List Finding) :
    (momentsIn around path state findings).map (fun moment => (moment.directive, moment.child)) =
      (findings.filterMap Finding.directive?).zip (link around path state findings).1 := by
  induction findings generalizing state with
  | nil => rfl
  | cons finding rest ih =>
    cases finding with
    | malformed line text => exact ih _
    | directive directive => exact congrArg _ (ih _)

theorem accompanied_grows (around : Surroundings) (state : Traversal) (path : String) (kind : Kind) :
    ∃ gain, Grows path gain (taken state path) (accompanied around state path kind) ∧
      ∀ file ∈ gain.files, around.files.isFile file.path = true := by
  unfold accompanied
  split
  · obtain ⟨gain, probed⟩ :=
      addCompanions_accompanied around path around.options.companionSuffixes (taken state path)
    exact ⟨gain, probed.grows, fun file member => (probed.files file member).2.1⟩
  · exact ⟨{}, .refl path _, by simp⟩

private theorem moments_of_turn (turn : Turn around path node new gain before middle after) :
    moments around before = momentsAt around before path := by
  rw [moments, opened_of_turn turn, List.flatMap_singleton]

theorem turn_moments (turn : Turn around path node new gain before middle after)
    (stepped : step around before = .next after) :
    (around.files.read path = .error .missing ∧ moments around before = [] ∧ after.nodes.keys = before.nodes.keys) ∨
    ∃ bytes children linked, around.files.read path = .ok bytes ∧ new = readNode node children ∧
      moments around before =
        momentsIn around path (accompanied around before path node.kind) (Finding.scan (readText bytes)) ∧
      link around path (accompanied around before path node.kind) (Finding.scan (readText bytes)) =
        (children, linked) ∧
      after.nodes = linked.nodes.insert path new := by
  rw [moments_of_turn turn]
  cases read : around.files.read path with
  | error fault =>
    cases turn.reads with
    | missing absent =>
      obtain rfl := Except.error.inj (read.symm.trans absent)
      exact Or.inl ⟨rfl, by simp [momentsAt, turn.found, read], by simpa using turn.keys⟩
    | opened found => simp [read] at found
  | ok bytes =>
    obtain ⟨rest, list⟩ : ∃ rest, before.worklist = .listed path :: rest := ⟨_, turn.first⟩
    simp only [step, list, node?, turn.found, turn.waiting.status, process, turn.waiting.target, Item.readPath,
      read] at stepped
    have marked := turn.found_after
    rw [← Step.next.inj stepped] at marked ⊢
    have same := (Table.find?_insert_self _ _ _).symm.trans marked
    obtain rfl := Option.some.inj same
    refine Or.inr ⟨bytes, _, _, rfl, ?_, by simp [momentsAt, turn.found, read], rfl, ?_⟩
    · simp only [accompanied, taken, readNode, list, List.tail_cons, turn.waiting.target]
    · simp only [accompanied, taken, list, List.tail_cons, setNode]

theorem told_turn (turn : Turn around path node new gain before middle after)
    (stepped : step around before = .next after) (told : Told around root history)
    (accounts : Accounts around root history before) :
    Told around root (history ++ moments around before) ∧
      Accounts around root (history ++ moments around before) after := by
  rcases turn_moments turn stepped with ⟨-, none, keys⟩ | ⟨bytes, children, linked, -, -, same, link, nodes⟩
  · rw [none, List.append_nil]
    exact ⟨told, accounts.keep (by simp [keys])⟩
  · obtain ⟨early, grows, regular⟩ := accompanied_grows around before path node.kind
    obtain ⟨late, more⟩ := link_linked around path (Finding.scan (readText bytes))
      (accompanied around before path node.kind)
    have present := more.grows.kept (grows.kept (by simpa using turn.found))
    have taken : Accounts around root history (taken before path) := accounts.keep (by simp)
    have probed : Accounts around root (history ++ []) (accompanied around before path node.kind) :=
      taken.grow grows (by simp) fun file member => .companion (regular file member)
    rw [List.append_nil] at probed
    obtain ⟨told, accounts⟩ := link_told (Finding.scan (readText bytes)) told probed
    rw [link] at accounts present
    rw [same]
    refine ⟨told, accounts.keep fun key => ?_⟩
    rw [nodes, Table.keys_insert_of_present present]

theorem moments_path (turn : Turn around path node new gain before middle after)
    (member : moment ∈ moments around before) : moment.path = path := by
  rw [moments_of_turn turn] at member
  unfold momentsAt at member
  split at member
  · exact momentsIn_path member
  · cases member

/-- A file that waits has no moments yet. -/
private theorem Recorded.fresh (recorded : Recorded around history before.nodes)
    (turn : Turn around path node new gain before middle after) (member : moment ∈ history) : moment.path ≠ path := by
  rintro rfl
  obtain ⟨known, _, _, found, resolved, -⟩ := recorded.opened moment member
  obtain rfl := Option.some.inj (found.symm.trans turn.found)
  cases resolved.symm.trans turn.waiting.status

theorem Recorded.turn (recorded : Recorded around history before.nodes)
    (turn : Turn around path node new gain before middle after) (stepped : step around before = .next after) :
    Recorded around (history ++ moments around before) after.nodes := by
  constructor
  · intro moment member
    rcases List.mem_append.mp member with old | recent
    · obtain ⟨known, bytes, children, found, resolved, read, listed⟩ := recorded.opened moment old
      obtain ⟨later, there, -, -, same⟩ := turn.follows.nodes _ known found
      obtain rfl := same resolved
      exact ⟨later, bytes, children, there, resolved, read, listed⟩
    · rw [moments_path turn recent]
      rcases turn_moments turn stepped with ⟨-, none, -⟩ | ⟨bytes, children, -, read, rfl, -⟩
      · simp [none] at recent
      · exact ⟨_, bytes, children, turn.found_after, rfl, read, rfl⟩
  · intro other known bytes children found read listed
    rw [List.filter_append, List.map_append]
    -- The moments of the turn are all those of its file, and none of another.
    rcases turn.cases found with ⟨rfl, rfl⟩ | ⟨different, old⟩ | ⟨file, member, rfl, rfl⟩
    · have none : history.filter (·.path = other) = [] :=
        List.filter_eq_nil_iff.mpr fun moment member => by simpa using recorded.fresh turn member
      have all : (moments around before).filter (·.path = other) = moments around before :=
        List.filter_eq_self.mpr fun moment member => by simpa using moments_path turn member
      rcases turn_moments turn stepped with ⟨absent, -⟩ | ⟨content, refs, linked, opened, rfl, same, link, -⟩
      · simp [absent] at read
      · obtain rfl := Except.ok.inj (opened.symm.trans read)
        obtain rfl := Option.some.inj listed
        rw [none, all, same, momentsIn_lines, link]
        rfl
    · have none : (moments around before).filter (·.path = other) = [] :=
        List.filter_eq_nil_iff.mpr fun moment member => by simpa [moments_path turn member] using different
      rw [recorded.lines other known bytes children old read listed, none]
      simp
    · cases listed

theorem told_of_trace (trace : Trace (moments around) around (start around.index root) history state) :
    Told around root history ∧ Accounts around root history state ∧ Recorded around history state.nodes := by
  induction trace with
  | none =>
    refine ⟨by simp [Told], ⟨by simp, ?_⟩, by simp, ?_⟩
    · intro path met
      obtain rfl := List.mem_singleton.mp met
      exact .root
    · intro path node bytes children found read listed
      rw [start_find?] at found
      split at found <;> cases found
      cases listed
  | more early stepped ih =>
    obtain ⟨told, accounts, recorded⟩ := ih
    obtain ⟨path, node, new, gain, middle, turn⟩ := turn_of_runs early.runs stepped
    obtain ⟨toldMore, accountsMore⟩ := told_turn turn stepped told accounts
    exact ⟨toldMore, accountsMore, recorded.turn turn stepped⟩

/-- The directive stands in a file of the graph, which has the child for it. -/
def Records (files : FileSystem) (graph : Graph) (path : String) (directive : Directive) (child : Ref) : Prop :=
  ∃ node bytes children, graph.nodes.find? path = some node ∧ files.read path = .ok bytes ∧
    node.children = some children ∧ (directive, child) ∈ (directivesOf bytes).zip children

/-- The history of the run that leads to a graph: every directive that was resolved, in order, each explained by those
before it, and the children of the graph read off from them. -/
structure Chronicle (around : Surroundings) (root : String) (history : List Moment) (graph : Graph) : Prop where
  traced : ∃ last, Trace (moments around) around (start around.index root) history last ∧ step around last = .done ∧
    graph = Graph.ofTraversal root last
  told : Told around root history
  recorded : Recorded around history graph.nodes

structure Moment.Gives (moment : Moment) (path : String) (directive : Directive) (child : Ref) : Prop where
  path : moment.path = path
  directive : moment.directive = directive
  child : moment.child = child

theorem Chronicle.gives {graph : Graph} (chronicle : Chronicle around root history graph) {directive : Directive}
    {child : Ref} (records : Records around.files graph path directive child) :
    ∃ moment ∈ history, moment.Gives path directive child := by
  obtain ⟨node, bytes, children, found, read, listed, member⟩ := records
  rw [← chronicle.recorded.lines path node bytes children found read listed] at member
  obtain ⟨moment, inside, same⟩ := List.mem_map.mp member
  obtain ⟨inside, own⟩ := List.mem_filter.mp inside
  obtain ⟨directive, child⟩ := Prod.mk.inj same
  exact ⟨moment, inside, of_decide_eq_true own, directive, child⟩

theorem Chronicle.records {graph : Graph} (chronicle : Chronicle around root history graph) (member : moment ∈ history) :
    Records around.files graph moment.path moment.directive moment.child := by
  obtain ⟨node, bytes, children, found, -, read, listed⟩ := chronicle.recorded.opened moment member
  refine ⟨node, bytes, children, found, read, listed, ?_⟩
  rw [← chronicle.recorded.lines moment.path node bytes children found read listed]
  exact List.mem_map.mpr ⟨moment, List.mem_filter.mpr ⟨member, by simp⟩, rfl⟩

theorem exists_chronicle {files : FileSystem} {directories : List IncludeDirectory} {options : Options} {graph : Graph}
    (built : (Graph.build files root directories options).2 = .ok graph) :
    ∃ index history, (HeaderIndex.build files options.headerSuffixes directories).2 = .ok index ∧
      Chronicle ⟨files, index, options⟩ (Path.absolute files.currentPath root) history graph := by
  obtain ⟨index, last, indexed, finishes, rfl⟩ := build_ok_iff.mp built
  obtain ⟨history, trace⟩ := exists_trace (moments ⟨files, index, options⟩) finishes.runs
  obtain ⟨told, -, recorded⟩ := told_of_trace trace
  exact ⟨index, history, indexed, ⟨last, trace, finishes.done, rfl⟩, told, recorded⟩

end IncludeGraph.Proofs.History
