import IncludeGraph.Proofs.Indexing
import IncludeGraph.Proofs.QueueDiscipline

/-! How a build can fail. It declares two kinds of errors, and the worklist gives no cause for others. But a file
whose path holds a null byte is not refused by the system: opening it fails before, with an error that nothing
catches. Such a path comes from the root or from a quoted directive, since every other file was probed before. -/

namespace IncludeGraph.Proofs.DeclaredErrors
open Traversal Resolution Turns WorklistInvariant Builds Closure QueueDiscipline Indexing Paths

/-- The errors with which a build is documented to end: a directory that cannot be indexed, and a file that the system
refuses to open. -/
inductive Declared : BuildError → Prop where
  | index (refusal : HeaderIndex.Refusal) : Declared (.index refusal)
  | unreadable (path : String) (fault : Fault) : Declared (.traversal (.unreadable path fault))

def OnlyDeclared (files : FileSystem) (root : String) (directories : List IncludeDirectory) (options : Options) :
    Prop :=
  ∀ error, (Graph.build files root directories options).2 = .error error → Declared error

/-- Where the null byte in a path comes from. The index brings none in, since its paths were found on the disk, and a
companion was probed before it is read. -/
inductive NullSource (files : FileSystem) (root : String) : Prop where
  | current (null : '\x00' ∈ files.currentPath.toList)
  | root (null : '\x00' ∈ root.toList)
  | directive {path bytes directive} (opens : files.read path = .ok bytes) (stands : directive ∈ directivesOf bytes)
    (quoted : directive.quoted = true) (null : '\x00' ∈ directive.name.toList)

variable {files : FileSystem} {around : Surroundings} {root path : String} {state last : Traversal}
  {failure : Failure}

theorem read_nullByte_iff : files.read path = .error .nullByte ↔ '\x00' ∈ path.toList := by
  rw [← @FileSystem.locate_nullByte_iff files]
  unfold FileSystem.read
  split <;> simp_all

private theorem null_not_mem_of_isFile (regular : files.isFile path = true) : '\x00' ∉ path.toList := by
  intro null
  simp [FileSystem.isFile, FileSystem.locate_nullByte_iff.mpr null] at regular

private theorem null_not_mem_of_read {bytes : List UInt8} (opens : files.read path = .ok bytes) :
    '\x00' ∉ path.toList := by
  intro null
  cases opens.symm.trans (read_nullByte_iff.mpr null)

def failureOf (path : String) (fault : Fault) : Failure :=
  if fault = .nullByte then .nullByte else .unreadable path fault

private theorem eq_nullByte_of_failureOf {fault : Fault} (failed : failureOf path fault = .nullByte) :
    fault = .nullByte := by
  unfold failureOf at failed
  split at failed
  next null => exact null
  · cases failed

/-- A step fails exactly if the file that it opens is refused and not just missing. -/
theorem failed_iff (orderly : Orderly state) : (∃ final, step around state = .failed final failure) ↔
    ∃ path fault, opened state = [path] ∧ around.files.read path = .error fault ∧ fault ≠ .missing ∧
      failure = failureOf path fault := by
  rcases orderly.step_cases around with
    ⟨idle, done⟩ | ⟨path, rest, node, list, found, waiting, ⟨after, processed, next⟩ | ⟨final, cause, processed, stopped⟩⟩
  · simp [done, opened_of_idle idle]
  · have opens := opened_of_waiting list found waiting
    obtain ⟨gain, middle, new, reads, -⟩ := process_reads waiting.target processed
    simp only [next, reduceCtorEq, exists_false, false_iff]
    rintro ⟨other, fault, same, refused, present, -⟩
    obtain rfl := List.singleton_inj.mp (opens.symm.trans same)
    cases reads with
    | missing absent => exact present (Except.error.inj (refused.symm.trans absent))
    | opened found => cases refused.symm.trans found
  · have opens := opened_of_waiting list found waiting
    obtain ⟨fault, refused, present, -, rfl⟩ := process_fails waiting.target processed
    constructor
    · rintro ⟨_, failed⟩
      obtain ⟨-, rfl⟩ := Step.failed.inj (stopped.symm.trans failed)
      exact ⟨path, fault, opens, refused, present, rfl⟩
    · rintro ⟨other, cause, same, refusal, -, rfl⟩
      obtain rfl := List.singleton_inj.mp (opens.symm.trans same)
      obtain rfl := Except.error.inj (refused.symm.trans refusal)
      exact ⟨final, stopped⟩

private theorem known_of_opened (orderly : Orderly state) (opens : opened state = [path]) :
    path ∈ state.nodes.keys := by
  cases list : state.worklist with
  | nil => cases (opened_of_idle list).symm.trans opens
  | cons item rest =>
    obtain ⟨first, node, rfl, found, queued⟩ := (orderly.waits item).mp (by simp [list])
    have here := opened_of_waiting list found (orderly.queued first node found queued)
    obtain rfl := List.singleton_inj.mp (here.symm.trans opens)
    exact (Table.mem_keys_iff _ _).mpr ⟨node, found⟩

/-- A node whose file is not regular is the root, or the file of a quoted directive in a file that opens. -/
private theorem quoted_of_not_isFile (valid : Invariant around root state)
    (regular : ∀ name target, around.index.find? name = some target → around.files.isFile target = true)
    (known : path ∈ state.nodes.keys) (irregular : ¬ around.files.isFile path = true) :
    path = root ∨ ∃ reader bytes directive, around.files.read reader = .ok bytes ∧ directive ∈ directivesOf bytes ∧
      directive.quoted = true ∧ path = candidate around (Path.dirname reader) directive.name := by
  by_cases below : path = root
  · exact Or.inl below
  obtain ⟨node, found⟩ := (Table.mem_keys_iff _ _).mp known
  obtain ⟨reader, origin, children, -, there, resolved, listed, how⟩ := valid.introduced path node found below
  generalize node.kind = kind at how
  cases valid.visited reader origin there resolved with
  | missing _ _ childless => cases childless.symm.trans listed
  | @opened bytes same opens _ kept means =>
    obtain rfl := Option.some.inj (kept.symm.trans listed)
    -- Companions and the headers of the index were probed, so that only the own path of a directive is left.
    cases how with
    | included child =>
      obtain ⟨directive, stands, meant⟩ := exists_related means child
      cases meant with
      | own quoted => exact Or.inr ⟨reader, bytes, directive, opens, stands, quoted, rfl⟩
      | indexed found => exact absurd (regular _ _ found) irregular
    | accompanied _ companion =>
      obtain ⟨_, _, -, probed⟩ := companion
      exact absurd probed irregular

private theorem nullSource_of_known {index : HeaderIndex} {options : Options}
    (regular : ∀ name target, index.find? name = some target → files.isFile target = true)
    (valid : Invariant ⟨files, index, options⟩ (Path.absolute files.currentPath root) state)
    (known : path ∈ state.nodes.keys) (null : '\x00' ∈ path.toList) : NullSource files root := by
  have irregular : ¬ files.isFile path = true := fun probed => null_not_mem_of_isFile probed null
  rcases quoted_of_not_isFile valid regular known irregular with
    rfl | ⟨reader, bytes, directive, opens, stands, quoted, rfl⟩
  · rcases mem_absolute null with slash | current | own
    · cases slash
    · exact .current current
    · exact .root own
  · rcases mem_absolute null with slash | current | joined
    · cases slash
    · exact .current current
    rcases mem_join joined with slash | directory | named
    · cases slash
    · exact absurd (mem_dirname directory) (null_not_mem_of_read opens)
    · exact .directive opens stands quoted named

section
variable {directories : List IncludeDirectory} {options : Options}

/-- A build fails in its traversal exactly if a step of it opens a file that is refused and not just missing. -/
theorem build_failed_iff : (Graph.build files root directories options).2 = .error (.traversal failure) ↔
    ∃ index state path fault, (HeaderIndex.build files options.headerSuffixes directories).2 = .ok index ∧
      Relation.ReflTransGen (Advances ⟨files, index, options⟩)
        (start index (Path.absolute files.currentPath root)) state ∧
      opened state = [path] ∧ files.read path = .error fault ∧ fault ≠ .missing ∧ failure = failureOf path fault := by
  rcases indexed : HeaderIndex.build files options.headerSuffixes directories with ⟨told, refusal | index⟩
  · simp [Graph.build, indexed]
  constructor
  · intro failed
    obtain ⟨state, final, runs, stepped⟩ := exists_failed_step (by rw [indexed]) failed
    obtain ⟨path, fault, refused⟩ := (failed_iff (invariant_of_runs runs).toOrderly).mp ⟨final, stepped⟩
    exact ⟨index, state, path, fault, rfl, runs, refused⟩
  · rintro ⟨_, state, path, fault, same, runs, refused⟩
    obtain rfl := Except.ok.inj same
    have orderly := (@invariant_of_runs ⟨files, index, options⟩ _ _ runs).toOrderly
    obtain ⟨final, stepped⟩ := (@failed_iff ⟨files, index, options⟩ _ _ orderly).mpr ⟨path, fault, refused⟩
    exact (build_fails_iff (by rw [indexed])).mpr
      ⟨final, (exhaust_of_runs runs).trans (exhaust_of_failed stepped)⟩

theorem failed_of_endWithin {index : HeaderIndex} (steps : Nat)
    (indexed : (HeaderIndex.build files options.headerSuffixes directories).2 = .ok index)
    (ended : (endWithin ⟨files, index, options⟩ steps (start index (Path.absolute files.currentPath root))).bind
      (·.2) = some failure) : (Graph.build files root directories options).2 = .error (.traversal failure) := by
  obtain ⟨⟨last, failure?⟩, reached, same⟩ := Option.bind_eq_some_iff.mp ended
  obtain rfl : failure? = some failure := same
  exact (build_fails_iff indexed).mpr ⟨last, exhaust_of_endWithin reached⟩

theorem declared_or_null {error : BuildError}
    (failed : (Graph.build files root directories options).2 = .error error) :
    Declared error ∨ error = .traversal .nullByte := by
  cases error with
  | index refusal => exact Or.inl (.index refusal)
  | traversal failure =>
    obtain ⟨index, state, path, fault, -, -, -, -, -, rfl⟩ := build_failed_iff.mp failed
    unfold failureOf
    split
    · exact Or.inr rfl
    · exact Or.inl (.unreadable path fault)

theorem build_null_iff : (Graph.build files root directories options).2 = .error (.traversal .nullByte) ↔
    ∃ index state path, (HeaderIndex.build files options.headerSuffixes directories).2 = .ok index ∧
      Relation.ReflTransGen (Advances ⟨files, index, options⟩)
        (start index (Path.absolute files.currentPath root)) state ∧
      opened state = [path] ∧ '\x00' ∈ path.toList := by
  rw [build_failed_iff]
  constructor
  · rintro ⟨index, state, path, fault, indexed, runs, opens, refused, -, failed⟩
    obtain rfl := eq_nullByte_of_failureOf failed.symm
    exact ⟨index, state, path, indexed, runs, opens, read_nullByte_iff.mp refused⟩
  · rintro ⟨index, state, path, indexed, runs, opens, null⟩
    exact ⟨index, state, path, .nullByte, indexed, runs, opens, read_nullByte_iff.mpr null, nofun, rfl⟩

private theorem nullSource_of_failed
    (failed : (Graph.build files root directories options).2 = .error (.traversal .nullByte)) :
    NullSource files root := by
  obtain ⟨index, state, path, indexed, runs, opens, null⟩ := build_null_iff.mp failed
  have valid := @invariant_of_runs ⟨files, index, options⟩ _ _ runs
  have known := known_of_opened valid.toOrderly opens
  exact nullSource_of_known (fun _ _ => isFile_of_indexed indexed) valid known null

/-- All errors of a build are declared ones but that of the null byte. It comes up exactly when a file is opened whose
path holds one, and only for want of a check of the root and of the names in quoted directives. -/
theorem build_declares (files : FileSystem) (root : String) (directories : List IncludeDirectory) (options : Options) :
    (∀ error, (Graph.build files root directories options).2 = .error error →
      Declared error ∨ error = .traversal .nullByte) ∧
    ((Graph.build files root directories options).2 = .error (.traversal .nullByte) ↔ ∃ index state path,
      (HeaderIndex.build files options.headerSuffixes directories).2 = .ok index ∧
      Relation.ReflTransGen (Advances ⟨files, index, options⟩)
        (start index (Path.absolute files.currentPath root)) state ∧
      opened state = [path] ∧ '\x00' ∈ path.toList) ∧
    ((Graph.build files root directories options).2 = .error (.traversal .nullByte) → NullSource files root) :=
  ⟨fun _ => declared_or_null, build_null_iff, nullSource_of_failed⟩

def spiked : FileSystem :=
  ⟨["w"], ⟨[(["w"], .directory true), (["w", "m.cpp"], textEntry "#include \"a\x00.h\"\n")]⟩⟩

private theorem spiked_indexed : (HeaderIndex.build spiked [".h"] []).2 = .ok {} := by decide +kernel

theorem not_onlyDeclared_spiked : ¬ OnlyDeclared spiked "m.cpp" [] {} := by
  intro declared
  have failed : (Graph.build spiked "m.cpp" [] {}).2 = .error (.traversal .nullByte) :=
    failed_of_endWithin 2 spiked_indexed (by decide +kernel)
  cases declared _ failed

end

end IncludeGraph.Proofs.DeclaredErrors
