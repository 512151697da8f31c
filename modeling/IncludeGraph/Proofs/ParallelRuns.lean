import IncludeGraph.Graph.Build
import IncludeGraph.Proofs.Resolution

/-! Two traversals side by side. What they tell, and the order of the include paths that they began with, have no part in
what they find: from states that differ in nothing else they take the same steps, to states that differ in nothing else. -/

namespace IncludeGraph.Proofs.ParallelRuns
open Traversal

/-- The same files, the same headers under the same names, and the same suffixes of companions. The order of the index
and the telling of details are left open. -/
structure Akin (around other : Surroundings) : Prop where
  files : other.files = around.files
  lookups : ∀ name, other.index.find? name = around.index.find? name
  suffixes : other.options.companionSuffixes = around.options.companionSuffixes

/-- The states differ at most in their logs and in the include paths they began with. The paths that came into use since
are the same, in the same order. -/
def Agree (begun others : List String) (first second : Traversal) : Prop :=
  ∃ log since, first.includePaths = begun ++ since ∧ second = { first with log, includePaths := others ++ since }

variable {begun others : List String} {first second : Traversal} {around other : Surroundings}

theorem Agree.refl (state : Traversal) : Agree [] [] state state := ⟨_, _, rfl, rfl⟩

private theorem Agree.nodes (agree : Agree begun others first second) : second.nodes = first.nodes := by
  obtain ⟨log, since, used, rfl⟩ := agree
  rfl

private theorem Agree.tell (agree : Agree begun others first second) (record another : Log.Record) :
    Agree begun others (first.tell record) (second.tell another) := by
  obtain ⟨log, since, used, rfl⟩ := agree
  exact ⟨_, _, used, rfl⟩

private theorem Agree.detail (agree : Agree begun others first second) (options different : Options)
    (message : String) :
    Agree begun others (first.detail options message) (second.detail different message) := by
  obtain ⟨log, since, used, rfl⟩ := agree
  unfold Traversal.detail
  split <;> split <;> exact ⟨_, _, used, rfl⟩

private theorem Agree.note (agree : Agree begun others first second) (diagnostic : Diagnostic) :
    Agree begun others (first.note diagnostic) (second.note diagnostic) := by
  obtain ⟨log, since, used, rfl⟩ := agree
  exact ⟨_, _, used, rfl⟩

private theorem Agree.add (agree : Agree begun others first second) (kind : Kind) (path : String)
    (parent : Option String) :
    Agree begun others (first.add kind path parent) (second.add kind path parent) := by
  obtain ⟨log, since, used, rfl⟩ := agree
  unfold Traversal.add Traversal.detach
  dsimp only
  split
  · exact ⟨_, _, used, rfl⟩
  · exact ⟨_, _, used, rfl⟩

private theorem Agree.setNode (agree : Agree begun others first second) (item : Item) (node : Node) :
    Agree begun others (first.setNode item node) (second.setNode item node) := by
  obtain ⟨log, since, used, rfl⟩ := agree
  cases item with
  | listed path => exact ⟨_, _, used, rfl⟩
  | detached number => exact ⟨_, _, used, rfl⟩

structure Matches {α : Type} (begun others : List String) (first second : α × Traversal) : Prop where
  answer : first.1 = second.1
  states : Agree begun others first.2 second.2

private theorem Agree.meet (agree : Agree begun others first second) (path parent : String) :
    Matches begun others (first.meet path parent) (second.meet path parent) := by
  refine ⟨rfl, ?_⟩
  simp only [Traversal.meet, agree.nodes]
  split
  · exact agree
  · exact agree.add _ _ _

private theorem Agree.meetSystem (agree : Agree begun others first second) (name parent : String) :
    Matches begun others (first.meetSystem name parent) (second.meetSystem name parent) := by
  obtain ⟨log, since, used, rfl⟩ := agree
  refine ⟨rfl, ?_⟩
  simp only [Traversal.meetSystem]
  split
  · exact ⟨_, _, used, rfl⟩
  · exact ⟨_, _, used, rfl⟩

inductive SameStep (begun others : List String) : Step → Step → Prop where
  | done : SameStep begun others .done .done
  | failed {one two} (failure : Failure) (agree : Agree begun others one two) :
    SameStep begun others (.failed one failure) (.failed two failure)
  | next {one two} (agree : Agree begun others one two) : SameStep begun others (.next one) (.next two)

section
variable (same : ∀ path, path ∈ begun ↔ path ∈ others)
include same

private theorem Agree.usePath (agree : Agree begun others first second) (path : String) :
    Agree begun others (first.usePath path) (second.usePath path) := by
  obtain ⟨log, since, used, rfl⟩ := agree
  have known : (others ++ since).contains path = first.includePaths.contains path := by
    rw [Bool.eq_iff_iff, List.contains_iff_mem, List.contains_iff_mem, used, List.mem_append, List.mem_append, same]
  unfold Traversal.usePath
  dsimp only
  rw [known]
  split
  · exact ⟨_, _, used, rfl⟩
  · refine ⟨log, since ++ [path], ?_, ?_⟩
    · rw [used, List.append_assoc]
    · rw [List.append_assoc]

end

section
variable (akin : Akin around other)
include akin

theorem Agree.addCompanions (agree : Agree begun others first second) (header : String) (suffixes : List String) :
    Agree begun others (addCompanions around header first suffixes) (addCompanions other header second suffixes) := by
  induction suffixes generalizing first second with
  | nil => exact agree
  | cons suffix rest ih =>
    have told := agree.detail around.options other.options
      ("Source found for " ++ header ++ ": " ++ companionPath header suffix)
    simp only [Traversal.addCompanions, akin.files]
    split
    · apply ih
      rw [told.nodes]
      split
      · exact told
      · exact told.add _ _ _
    · exact ih agree

theorem Agree.resolve (agree : Agree begun others first second) (parent directory : String) (directive : Directive) :
    Matches begun others (resolve around first parent directory directive)
      (resolve other second parent directory directive) := by
  rw [Resolution.resolve_congr (congrArg FileSystem.currentPath akin.files) akin.lookups]
  simp only [Traversal.resolve, agree.nodes]
  split
  · exact ⟨rfl, agree⟩
  split
  · exact agree.meet _ _
  split
  · exact agree.meet _ _
  · exact agree.meetSystem _ _

theorem Agree.link (agree : Agree begun others first second) (path : String) (findings : List Finding) :
    Matches begun others (link around path first findings) (link other path second findings) := by
  induction findings generalizing first second with
  | nil => exact ⟨rfl, agree⟩
  | cons finding rest ih =>
    cases finding with
    | malformed line text => exact ih ((agree.tell _ _).note _)
    | directive directive =>
      have resolved := agree.resolve akin path (Path.dirname path) directive
      simp only [Traversal.link, resolved.answer]
      have later := ih (resolved.states.detail around.options other.options
        (path ++ " -> " ++ (Traversal.resolve other second path (Path.dirname path) directive).1.text))
      exact ⟨congrArg (List.cons _) later.answer, later.states⟩

private theorem Agree.nextHeader? (agree : Agree begun others first second) :
    Traversal.nextHeader? around first = Traversal.nextHeader? other second := by
  obtain ⟨log, since, used, rfl⟩ := agree
  unfold Traversal.nextHeader?
  rw [akin.files]
  dsimp only
  cases first.worklist with
  | nil => rfl
  | cons item rest => cases item <;> rfl

variable (same : ∀ path, path ∈ begun ↔ path ∈ others)
include same

theorem Agree.process (agree : Agree begun others first second) (item : Item) (node : Node) :
    (process around first item node).2 = (process other second item node).2 ∧
      Agree begun others (process around first item node).1 (process other second item node).1 := by
  cases target : node.target with
  | system name =>
    simp only [Traversal.process, target, true_and]
    exact agree
  | file own present =>
    have entered := agree.usePath same (Path.dirname (item.readPath own))
    simp only [Traversal.process, target, akin.files]
    cases around.files.read (item.readPath own) with
    | error fault =>
      cases fault with
      | missing => exact ⟨rfl, ((entered.tell _ _).note _).setNode _ _⟩
      | _ => exact ⟨rfl, entered⟩
    | ok bytes =>
      refine ⟨rfl, ?_⟩
      dsimp only
      rw [akin.suffixes]
      by_cases header : node.kind = .header
      · have linked := (entered.addCompanions akin (item.readPath own) around.options.companionSuffixes).link akin
          (item.readPath own) (Finding.scan (readText bytes))
        simp only [header, if_true, linked.answer]
        exact linked.states.setNode _ _
      · have linked := entered.link akin (item.readPath own) (Finding.scan (readText bytes))
        simp only [header, if_false, linked.answer]
        exact linked.states.setNode _ _

theorem Agree.step (agree : Agree begun others first second) :
    SameStep begun others (step around first) (step other second) := by
  obtain ⟨log, since, used, rfl⟩ := agree
  cases list : first.worklist with
  | nil =>
    simp only [Traversal.step, list]
    exact .done
  | cons item rest =>
    have taken : Agree begun others { first with worklist := rest }
        { first with worklist := rest, log, includePaths := others ++ since } := ⟨log, since, used, rfl⟩
    -- Neither the log nor the include paths decide which case a step takes.
    have found : ({ first with worklist := rest, log, includePaths := others ++ since } : Traversal).node? item =
        ({ first with worklist := rest } : Traversal).node? item := by cases item <;> rfl
    simp only [Traversal.step, list, found]
    split
    · exact .next taken
    next node _ =>
      split
      · exact .next taken
      · exact .failed _ taken
      · obtain ⟨outcome, states⟩ := taken.process akin same item node
        generalize Traversal.process around { first with worklist := rest } item node = one at outcome states
        generalize Traversal.process other { first with worklist := rest, log, includePaths := others ++ since } item
            node = two
          at outcome states
        obtain ⟨state, failure?⟩ := one
        obtain ⟨later, failure?⟩ := two
        obtain rfl := outcome
        cases failure? with
        | none => exact .next states
        | some failure => exact .failed failure states

private theorem Agree.step_done (agree : Agree begun others first second)
    (stepped : Traversal.step around first = .done) : Traversal.step other second = .done := by
  have both := agree.step akin same
  rw [stepped] at both
  generalize Traversal.step other second = another at both
  cases both
  rfl

private theorem Agree.step_failed {last : Traversal} {failure : Failure} (agree : Agree begun others first second)
    (stepped : Traversal.step around first = .failed last failure) :
    ∃ final, Traversal.step other second = .failed final failure ∧ Agree begun others last final := by
  have both := agree.step akin same
  rw [stepped] at both
  generalize Traversal.step other second = another at both
  cases both with
  | failed _ agree => exact ⟨_, rfl, agree⟩

private theorem Agree.step_next {following : Traversal} (agree : Agree begun others first second)
    (stepped : Traversal.step around first = .next following) :
    ∃ later, Traversal.step other second = .next later ∧ Agree begun others following later := by
  have both := agree.step akin same
  rw [stepped] at both
  generalize Traversal.step other second = another at both
  cases both with
  | next agree => exact ⟨_, rfl, agree⟩

/-- From states that agree, both runs end in such states, and for one cause if they fail. -/
theorem Agree.exhaust (agree : Agree begun others first second) :
    (Traversal.exhaust around first).2 = (Traversal.exhaust other second).2 ∧
      Agree begun others (Traversal.exhaust around first).1 (Traversal.exhaust other second).1 := by
  fun_induction Traversal.exhaust around first generalizing second with
  | case1 state stepped =>
    rw [exhaust_of_done (agree.step_done akin same stepped)]
    exact ⟨rfl, agree⟩
  | case2 state last failure stepped =>
    obtain ⟨final, failed, agree⟩ := agree.step_failed akin same stepped
    rw [exhaust_of_failed failed]
    exact ⟨rfl, agree⟩
  | case3 state following stepped ih =>
    obtain ⟨later, next, agree⟩ := agree.step_next akin same stepped
    rw [exhaust_of_next next]
    exact ih agree

/-- A header that opens has its turn in both runs or in neither. -/
theorem Agree.firstHeader? (agree : Agree begun others first second) :
    (Traversal.firstHeader? around first).isSome = (Traversal.firstHeader? other second).isSome := by
  fun_induction Traversal.firstHeader? around first generalizing second with
  | case1 state path found =>
    rw [agree.nextHeader? akin] at found
    rw [Traversal.firstHeader?, found]
    rfl
  | case2 state none following stepped ih =>
    rw [agree.nextHeader? akin] at none
    obtain ⟨later, next, agree⟩ := agree.step_next akin same stepped
    rw [firstHeader?_of_next none next]
    exact ih agree
  | case3 state none ended =>
    have ends : ∀ following, Traversal.step other second ≠ .next following := by
      intro following next
      cases stepped : Traversal.step around state with
      | done => cases next.symm.trans (agree.step_done akin same stepped)
      | failed last failure =>
        obtain ⟨final, failed, -⟩ := agree.step_failed akin same stepped
        cases next.symm.trans failed
      | next following => exact ended following stepped
    rw [agree.nextHeader? akin] at none
    rw [firstHeader?_of_end none ends]

end

/-- The graph is the same whether or not details are told. -/
theorem build_debug (files : FileSystem) (root : String) (directories : List IncludeDirectory) (options : Options)
    (debug : Bool) :
    (Graph.build files root directories { options with debug }).2 = (Graph.build files root directories options).2 := by
  unfold Graph.build
  dsimp only
  rcases HeaderIndex.build files options.headerSuffixes directories with ⟨told, refusal | index⟩
  · rfl
  · have akin : Akin ⟨files, index, options⟩ ⟨files, index, { options with debug }⟩ := ⟨rfl, fun _ => rfl, rfl⟩
    have start := Agree.refl ((Traversal.initial index).add .source (Path.absolute files.currentPath root) none)
    obtain ⟨failure, states⟩ := start.exhaust akin fun _ => Iff.rfl
    simp only [Traversal.run]
    generalize Traversal.exhaust ⟨files, index, options⟩ _ = one at failure states ⊢
    generalize Traversal.exhaust ⟨files, index, { options with debug }⟩ _ = two at failure states ⊢
    obtain ⟨state, failure?⟩ := one
    obtain ⟨later, failure?⟩ := two
    obtain rfl := failure
    obtain ⟨log, since, used, rfl⟩ := states
    obtain rfl : since = state.includePaths := used.symm
    cases failure? with
    | none => rfl
    | some failure => rfl

end IncludeGraph.Proofs.ParallelRuns
