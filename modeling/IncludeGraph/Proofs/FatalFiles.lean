import IncludeGraph.Proofs.DeclaredErrors

/-! Which files stop a build. A file opens, or there is none at its path, or the system refuses to open it for another
reason. A graph tells of files of the first two kinds alone, and a build that stops names a file of the third kind, to
which includes and companions lead from the root. -/

namespace IncludeGraph.Proofs.FatalFiles
open Traversal Resolution Turns WorklistInvariant Builds Closure QueueDiscipline DeclaredErrors

def Readable (files : FileSystem) (path : String) : Prop :=
  (∃ bytes, files.read path = .ok bytes) ∨ files.read path = .error .missing

/-- The system has a reason not to open the file, and another one than that there is none. A file that is not there is
reported and does not end a build. -/
def Refused (files : FileSystem) (path : String) (fault : Fault) : Prop :=
  files.read path = .error fault ∧ fault ≠ .missing ∧ fault ≠ .nullByte

/-- The parent of a file opened, and includes the file or is a header that has it as a companion. So a refused file
can be traced to the one that asked for it. -/
def IntroducedBy (around : Surroundings) (nodes : Table String Node) (path parent : String) : Prop :=
  ∃ node origin children bytes, nodes.find? path = some node ∧ node.parent = some parent ∧
    nodes.find? parent = some origin ∧ around.files.read parent = .ok bytes ∧ origin.children = some children ∧
    List.Forall₂ (MayMean around parent) (directivesOf bytes) children ∧
    Introduces around parent origin.kind children node.kind path

variable {files : FileSystem} {around : Surroundings} {root path : String} {fault : Fault} {state last : Traversal}

private theorem not_readable_of_refused (refused : Refused files path fault) : ¬ Readable files path := by
  obtain ⟨error, present, -⟩ := refused
  rintro (⟨bytes, opens⟩ | missing)
  · cases error.symm.trans opens
  · exact present (Except.error.inj (error.symm.trans missing))

/-- A known file goes back to the root through the files that introduced it. -/
private theorem introducedBy_root (valid : Invariant around root state) (known : path ∈ state.nodes.keys) :
    Relation.ReflTransGen (IntroducedBy around state.nodes) path root := by
  refine (valid.ascends path known).lift id ?_
  rintro child parent ⟨node, found, by_⟩
  obtain ⟨origin, children, bytes, there, opens, listed, means, how⟩ := valid.introduces found by_
  exact ⟨node, origin, children, bytes, found, by_, there, opens, listed, means, how⟩

private theorem readable_of_finishes (finishes : Finishes around root last) (known : path ∈ last.nodes.keys) :
    Readable around.files path := by
  obtain ⟨node, found⟩ := (Table.mem_keys_iff _ _).mp known
  have resolved := resolved_of_idle finishes.invariant finishes.idle found
  cases finishes.invariant.visited path node found resolved with
  | missing absent => exact Or.inr absent
  | opened opens => exact Or.inl ⟨_, opens⟩

/-- A run that meets a refused file does not come to its end. -/
private theorem not_finishes_of_refused (runs : Relation.ReflTransGen (Advances around) (start around.index root) state)
    (known : path ∈ state.nodes.keys) (refused : Refused around.files path fault) : ¬ Finishes around root last := by
  intro finishes
  have later := ((invariant_of_runs runs).run (reaches_end finishes runs)).2.keys known
  exact not_readable_of_refused refused (readable_of_finishes finishes later)

theorem refused_of_failed (valid : Invariant around root state)
    (stepped : step around state = .failed last (.unreadable path fault)) :
    Refused around.files path fault ∧ path ∈ state.nodes.keys ∧ last.nodes = state.nodes := by
  obtain ⟨own, node, reason, found, -, error, present, same, failed⟩ := valid.toOrderly.failed stepped
  split at failed
  · cases failed
  next sound =>
    obtain ⟨rfl, rfl⟩ := Failure.unreadable.inj failed
    exact ⟨⟨error, present, sound⟩, (Table.mem_keys_iff _ _).mpr ⟨node, found⟩, same⟩

section
variable {directories : List IncludeDirectory} {options : Options} {index : HeaderIndex}

/-- A build stops at a file that the system refuses to open, and never without one: the files of a graph open or are not
there, the file that an error names is refused and was introduced from the root on, and unless a null byte is met, an
error comes up exactly if some file that is met is refused. -/
theorem build_stops (indexed : (HeaderIndex.build files options.headerSuffixes directories).2 = .ok index) :
    (∀ graph, (Graph.build files root directories options).2 = .ok graph →
      ∀ path ∈ graph.nodes.keys, Readable files path) ∧
    (∀ path fault, (Graph.build files root directories options).2 = .error (.traversal (.unreadable path fault)) →
      Refused files path fault ∧ ∃ last, Traversal.run ⟨files, index, options⟩ (.initial index)
          (Path.absolute files.currentPath root) = (last, some (.unreadable path fault)) ∧
        path ∈ last.nodes.keys ∧ Relation.ReflTransGen (IntroducedBy ⟨files, index, options⟩ last.nodes) path
          (Path.absolute files.currentPath root)) ∧
    ((Graph.build files root directories options).2 ≠ .error (.traversal .nullByte) →
      ((∃ path fault, (Graph.build files root directories options).2 =
          .error (.traversal (.unreadable path fault))) ↔
        ∃ state path fault, Relation.ReflTransGen (Advances ⟨files, index, options⟩)
          (start index (Path.absolute files.currentPath root)) state ∧
          path ∈ state.nodes.keys ∧ Refused files path fault)) := by
  refine ⟨?_, ?_, ?_⟩
  · intro graph built path known
    obtain ⟨found, last, -, finishes, rfl⟩ := build_ok_iff.mp built
    exact readable_of_finishes finishes known
  · intro path fault failed
    obtain ⟨state, final, runs, stepped⟩ := exists_failed_step indexed failed
    have valid := @invariant_of_runs ⟨files, index, options⟩ _ _ runs
    obtain ⟨refused, known, same⟩ := refused_of_failed valid stepped
    have ended := (@exhaust_of_runs ⟨files, index, options⟩ _ _ runs).trans (exhaust_of_failed stepped)
    exact ⟨refused, final, ended, same ▸ known, same ▸ introducedBy_root valid known⟩
  · intro clean
    constructor
    · rintro ⟨path, fault, failed⟩
      obtain ⟨state, final, runs, stepped⟩ := exists_failed_step indexed failed
      obtain ⟨refused, known, -⟩ := refused_of_failed (@invariant_of_runs ⟨files, index, options⟩ _ _ runs) stepped
      exact ⟨state, path, fault, runs, known, refused⟩
    · rintro ⟨state, path, fault, runs, known, refused⟩
      cases outcome : (Graph.build files root directories options).2 with
      | ok graph =>
        -- A file that is met is opened before a run can finish, and this one would be refused then.
        obtain ⟨found, last, same, finishes, -⟩ := build_ok_iff.mp outcome
        obtain rfl := Except.ok.inj (same.symm.trans indexed)
        exact absurd finishes (not_finishes_of_refused runs known refused)
      | error error =>
        rcases declared_or_null outcome with declared | null
        · cases declared with
          | index refusal => cases (build_refused_iff.mp outcome).symm.trans indexed
          | unreadable own reason => exact ⟨own, reason, rfl⟩
        · rw [null] at outcome
          exact absurd outcome clean

def blocked : FileSystem :=
  ⟨["w"], ⟨[(["w"], .directory true),
    (["w", "m.cpp"], textEntry "#include \"gone.h\"\n#include \"a.h\"\n"),
    (["w", "a.h"], textEntry "#include <v>\n"),
    (["w", "a.cpp"], textEntry "#include \"a.h\"\n#include \"d\"\n"),
    (["w", "d"], .directory true)]⟩⟩

private theorem blocked_indexed : (HeaderIndex.build blocked [".h"] []).2 = .ok {} := by decide +kernel

private theorem blocked_failed :
    (Graph.build blocked "m.cpp" [] {}).2 = .error (.traversal (.unreadable "/w/d" .isDirectory)) :=
  failed_of_endWithin 5 blocked_indexed (by decide +kernel)

theorem build_stops_blocked : (Graph.build blocked "m.cpp" [] {}).2 =
      .error (.traversal (.unreadable "/w/d" .isDirectory)) ∧
    Refused blocked "/w/d" .isDirectory ∧
    (∃ last, Traversal.run ⟨blocked, {}, {}⟩ (.initial {}) "/w/m.cpp" =
        (last, some (.unreadable "/w/d" .isDirectory)) ∧ "/w/d" ∈ last.nodes.keys ∧
      Relation.ReflTransGen (IntroducedBy ⟨blocked, {}, {}⟩ last.nodes) "/w/d" "/w/m.cpp") ∧
    (∃ state path fault, Relation.ReflTransGen (Advances ⟨blocked, {}, {}⟩) (start {} "/w/m.cpp") state ∧
      path ∈ state.nodes.keys ∧ Refused blocked path fault) ∧
    ∀ path ∈ knotGraph.nodes.keys, Readable knot path := by
  have root : Path.absolute blocked.currentPath "m.cpp" = "/w/m.cpp" := by decide +kernel
  obtain ⟨-, names, stops⟩ := @build_stops blocked "m.cpp" [] {} _ blocked_indexed
  rw [root] at names stops
  obtain ⟨refused, stopped⟩ := names _ _ blocked_failed
  have clean : (Graph.build blocked "m.cpp" [] {}).2 ≠ .error (.traversal .nullByte) := by
    rw [blocked_failed]
    decide
  exact ⟨blocked_failed, refused, stopped, (stops clean).mp ⟨_, _, blocked_failed⟩,
    (build_stops knot_indexed).1 knotGraph knot_built⟩

end

end IncludeGraph.Proofs.FatalFiles
