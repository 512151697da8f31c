import IncludeGraph.Proofs.History
import IncludeGraph.Proofs.Indexing

/-! A quoted directive means a known file at its own path before the header of the index, whether or not that file turns
out to be there. So a header of the index is lost only to a node that came in earlier at the own path, and directives
that are alike part only where such a node came in between them. -/

namespace IncludeGraph.Proofs.Precedence
open Traversal Resolution WorklistInvariant Builds Closure Indexing Traces History

def PresentFile (files : FileSystem) (graph : Graph) (child : Ref) : Prop :=
  ∃ path node bytes, child = .file path ∧ graph.nodes.find? path = some node ∧ node.target = .file path true ∧
    files.read path = .ok bytes

/-- Every directive that the index has a header for has a child that is there. A missing node at the own path of a
quoted directive stands in the way. -/
def IndexedPresent (files : FileSystem) (root : String) (directories : List IncludeDirectory) (options : Options) :
    Prop :=
  ∀ index graph, (HeaderIndex.build files options.headerSuffixes directories).2 = .ok index →
    (Graph.build files root directories options).2 = .ok graph → ∀ path directive child target,
    Records files graph path directive child → index.find? directive.name = some target →
    PresentFile files graph child

/-- A node that was introduced at the own path of a quoted directive, and whose file is missing, is its child. An
earlier directive that meant the same path introduced it, by a name that the index lacks. -/
structure Shadowed (around : Surroundings) (past : List Moment) (moment : Moment) : Prop where
  quoted : moment.directive.quoted = true
  met : moment.own around ∈ moment.state.nodes.keys
  missing : around.files.read (moment.own around) = .error .missing
  child : moment.child = .file (moment.own around)
  earlier : ∃ earlier ∈ past, earlier.directive.quoted = true ∧ earlier.own around = moment.own around ∧
    around.index.find? earlier.directive.name = none ∧ moment.own around ∉ earlier.state.nodes.keys ∧
    earlier.child = .file (moment.own around)

/-- Directives of one name, both quoted or both not, in files of one directory. By what is written and where it stands
they mean the same. -/
structure Alike (path : String) (directive : Directive) (other : String) (twin : Directive) : Prop where
  name : directive.name = twin.name
  quoted : directive.quoted = twin.quoted
  directory : Path.dirname path = Path.dirname other

/-- Directives that are alike have one child. What a directive means depends on what is known when it is met, so that
this can fail for quoted ones. -/
def Uniform (files : FileSystem) (root : String) (directories : List IncludeDirectory) (options : Options) : Prop :=
  ∀ graph, (Graph.build files root directories options).2 = .ok graph →
    ∀ path directive child other twin sibling, Records files graph path directive child →
      Records files graph other twin sibling → Alike path directive other twin → child = sibling

/-- Of two quoted directives that are alike the earlier one took the header of the index. Then a node came in at their
own path, and the later one took that. -/
structure Overtaken (around : Surroundings) (earlier later : Moment) : Prop where
  quoted : later.directive.quoted = true
  own : earlier.own around = later.own around
  unmet : later.own around ∉ earlier.state.nodes.keys
  met : later.own around ∈ later.state.nodes.keys
  indexed : ∃ target, around.index.find? later.directive.name = some target ∧ target ≠ later.own around ∧
    earlier.child = .file target
  child : later.child = .file (later.own around)

theorem Alike.symm {path other : String} {directive twin : Directive} (alike : Alike path directive other twin) :
    Alike other twin path directive := ⟨alike.name.symm, alike.quoted.symm, alike.directory.symm⟩

variable {around : Surroundings} {root path : String} {earlier later moment : Moment}
  {past future history : List Moment} {files : FileSystem} {directories : List IncludeDirectory} {options : Options}
  {graph : Graph}

theorem read_ne_missing (regular : files.isFile path = true) : files.read path ≠ .error .missing := by
  unfold FileSystem.isFile at regular
  unfold FileSystem.read
  split at regular <;> simp_all

/-- Where a directive was resolved, the root opened before. -/
private theorem ne_root_of_missing (closes : Closes around root graph) {reader : String} {directive : Directive}
    {child : Ref} (records : Records around.files graph reader directive child)
    (missing : around.files.read path = .error .missing) :
    path ≠ root := by
  rintro rfl
  obtain ⟨node, bytes, children, there, read, -⟩ := records
  have member : reader ∈ graph.nodes.keys := (Table.mem_keys_iff _ _).mpr ⟨node, there⟩
  -- The parents go back to the root, and the last of them is one that opened.
  rcases (closes.ascends reader member).cases_tail with rfl | ⟨included, -, known, found, parent⟩
  · cases missing.symm.trans read
  · obtain ⟨_, _, content, -, opened, -⟩ := closes.parents included known _ found parent
    cases missing.symm.trans opened

private theorem present_of_read {last : Traversal} (finishes : Finishes around root last)
    (member : path ∈ last.nodes.keys) (there : around.files.read path ≠ .error .missing) :
    PresentFile around.files (Graph.ofTraversal root last) (.file path) := by
  obtain ⟨node, found⟩ := (Table.mem_keys_iff _ _).mp member
  have resolved := resolved_of_idle finishes.invariant finishes.idle found
  cases finishes.invariant.visited path node found resolved with
  | missing absent => exact absurd absent there
  | opened read target => exact ⟨path, node, _, rfl, found, target, read⟩

private theorem chosen_of_mem (told : Told around root history) (split : history = past ++ moment :: future)
    (member : earlier ∈ past) : Chosen around earlier := by
  obtain ⟨before, after, rfl⟩ := List.append_of_mem member
  exact (told before earlier (after ++ moment :: future) (by simpa using split)).2

/-- A path that is missing was introduced by a quoted directive whose name the index lacks. -/
theorem beside_of_missing (regular : ∀ name target, around.index.find? name = some target →
      around.files.isFile target = true) (chosen : ∀ earlier ∈ past, Chosen around earlier)
    (origin : Origin around root past path) (below : path ≠ root)
    (missing : around.files.read path = .error .missing) :
    ∃ earlier ∈ past, earlier.directive.quoted = true ∧ earlier.own around = path ∧
      around.index.find? earlier.directive.name = none ∧ path ∉ earlier.state.nodes.keys ∧
      earlier.child = .file path := by
  cases origin with
  | root => exact absurd rfl below
  | companion there => exact absurd missing (read_ne_missing there)
  | @included _ earlier member child unmet =>
    cases chosen earlier member with
    | known _ known same =>
      obtain rfl := Ref.file.inj (same.symm.trans child)
      exact absurd known unmet
    | indexed _ found same =>
      obtain rfl := Ref.file.inj (same.symm.trans child)
      exact absurd missing (read_ne_missing (regular _ _ found))
    | beside quoted _ unknown same =>
      exact ⟨earlier, member, quoted, Ref.file.inj (same.symm.trans child), unknown, unmet, child⟩
    | system _ _ same => cases same.symm.trans child

private theorem introduced_of_missing (regular : ∀ name target, around.index.find? name = some target →
      around.files.isFile target = true) (told : Told around root history) (split : history = past ++ moment :: future)
    (met : path ∈ moment.state.nodes.keys) (below : path ≠ root)
    (missing : around.files.read path = .error .missing) :
    ∃ earlier ∈ past, earlier.directive.quoted = true ∧ earlier.own around = path ∧
      around.index.find? earlier.directive.name = none ∧ path ∉ earlier.state.nodes.keys ∧
      earlier.child = .file path :=
  beside_of_missing regular (fun _ => chosen_of_mem told split) ((told past moment future split).1.origins path met)
    below missing

def fallback (around : Surroundings) (moment : Moment) : Ref :=
  match around.index.find? moment.directive.name with
  | some target => .file target
  | none => if moment.directive.quoted then .file (moment.own around) else .system moment.directive.name

private theorem child_of_met (chosen : Chosen around moment) (quoted : moment.directive.quoted = true)
    (met : moment.own around ∈ moment.state.nodes.keys) : moment.child = .file (moment.own around) := by
  cases chosen with
  | known _ _ child | beside _ _ _ child => exact child
  | indexed unmet => exact absurd met (unmet quoted)
  | system angled => simp [angled] at quoted

private theorem child_of_unmet (chosen : Chosen around moment)
    (unmet : moment.directive.quoted = true → moment.own around ∉ moment.state.nodes.keys) :
    moment.child = fallback around moment := by
  cases chosen with
  | known quoted met => exact absurd met (unmet quoted)
  | indexed _ found child => simp [fallback, found, child]
  | beside quoted _ unknown child => simp [fallback, unknown, quoted, child]
  | system angled unknown child => simp [fallback, unknown, angled, child]

private theorem same_or_overtaken (told : Told around root history) (split : history = past ++ later :: future)
    (member : earlier ∈ past) (alike : Alike earlier.path earlier.directive later.path later.directive) :
    earlier.child = later.child ∨ Overtaken around earlier later := by
  have own : earlier.own around = later.own around := by simp only [Moment.own, alike.directory, alike.name]
  have same : fallback around earlier = fallback around later := by
    simp only [fallback, own, alike.name, alike.quoted]
  have first := chosen_of_mem told split member
  obtain ⟨accounts, chosen⟩ := told past later future split
  have grown := accounts.grown earlier member (earlier.own around)
  by_cases met : later.directive.quoted = true ∧ later.own around ∈ later.state.nodes.keys
  · obtain ⟨quoted, met⟩ := met
    have child := child_of_met chosen quoted met
    by_cases early : earlier.own around ∈ earlier.state.nodes.keys
    · have known := child_of_met first (alike.quoted.trans quoted) early
      exact Or.inl (by rw [known, own, child])
    · -- Only what the index has for the name can part the two.
      have chance := (child_of_unmet first fun _ => early).trans same
      cases found : around.index.find? later.directive.name with
      | none => exact Or.inl (by simp [chance, fallback, found, quoted, child])
      | some target =>
        have indexed : earlier.child = .file target := by simp [chance, fallback, found]
        rw [own] at early
        by_cases equal : target = later.own around
        · exact Or.inl (by rw [indexed, equal, child])
        · exact Or.inr ⟨quoted, own, early, met, ⟨target, found, equal, indexed⟩, child⟩
  · have unmet : later.directive.quoted = true → later.own around ∉ later.state.nodes.keys :=
      fun quoted known => met ⟨quoted, known⟩
    have before : earlier.child = fallback around earlier := by
      apply child_of_unmet first
      intro quoted known
      have later := grown known
      rw [own] at later
      exact unmet (alike.quoted.symm.trans quoted) later
    exact Or.inl (before.trans (same.trans (child_of_unmet chosen unmet).symm))

private theorem ordered_of_mem (member : earlier ∈ history) (inside : later ∈ history) :
    earlier = later ∨ (∃ past future, history = past ++ later :: future ∧ earlier ∈ past) ∨
      ∃ past future, history = past ++ earlier :: future ∧ later ∈ past := by
  obtain ⟨past, future, rfl⟩ := List.append_of_mem member
  rcases List.mem_append.mp inside with before | rest
  · exact Or.inr (Or.inr ⟨past, future, rfl, before⟩)
  · rcases List.mem_cons.mp rest with same | after
    · exact Or.inl same.symm
    · obtain ⟨between, last, rfl⟩ := List.append_of_mem after
      exact Or.inr (Or.inl ⟨past ++ earlier :: between, last, by simp, by simp⟩)

theorem Records.known (closes : Closes around root graph) {directive : Directive} {child : Ref}
    (records : Records around.files graph path directive child) : Known graph.nodes graph.systems child := by
  obtain ⟨node, bytes, children, found, read, listed, member⟩ := records
  obtain ⟨_, same, -, known⟩ := closes.children path node bytes found read
  obtain rfl := Option.some.inj (same.symm.trans listed)
  exact known child (List.of_mem_zip member).2

/-- Where the index has a header for a directive, its child is a file that is there, unless it is shadowed. -/
theorem build_shadowed (built : (Graph.build files root directories options).2 = .ok graph) :
    ∃ index history, (HeaderIndex.build files options.headerSuffixes directories).2 = .ok index ∧
      Chronicle ⟨files, index, options⟩ (Path.absolute files.currentPath root) history graph ∧
      ∀ path directive child target, Records files graph path directive child →
        index.find? directive.name = some target →
        PresentFile files graph child ∨
          ∃ past moment future, history = past ++ moment :: future ∧ moment.Gives path directive child ∧
            Shadowed ⟨files, index, options⟩ past moment := by
  obtain ⟨index, history, indexed, chronicle⟩ := exists_chronicle built
  refine ⟨index, history, indexed, chronicle, ?_⟩
  intro path directive child target records found
  obtain ⟨last, trace, done, rfl⟩ := chronicle.traced
  have finishes : Finishes ⟨files, index, options⟩ (Path.absolute files.currentPath root) last := ⟨trace.runs, done⟩
  have closes := closes_of_idle finishes.invariant finishes.idle
  have known := Records.known closes records
  obtain ⟨moment, member, rfl, rfl, rfl⟩ := chronicle.gives records
  obtain ⟨past, future, split⟩ := List.append_of_mem member
  -- What the index has was found on the disk, so that only a child that was known before can be missing.
  cases (chronicle.told past moment future split).2 with
  | known quoted met same =>
    by_cases missing : files.read (moment.own ⟨files, index, options⟩) = .error .missing
    · have below := ne_root_of_missing closes records missing
      have earlier :=
        introduced_of_missing (fun _ _ => isFile_of_indexed indexed) chronicle.told split met below missing
      exact Or.inr ⟨past, moment, future, split, ⟨rfl, rfl, rfl⟩, quoted, met, missing, same, earlier⟩
    · rw [same] at known ⊢
      exact Or.inl (present_of_read finishes known missing)
  | indexed _ there same =>
    rw [same] at known ⊢
    exact Or.inl (present_of_read finishes known (read_ne_missing (isFile_of_indexed indexed there)))
  | beside _ _ unknown | system _ unknown => cases unknown.symm.trans found

def apart (text : String) : FileSystem :=
  ⟨["w"], ⟨[(["w"], .directory true), (["w", "m.cpp"], textEntry text), (["w", "i"], .directory true),
    (["w", "i", "a.h"], textEntry "")]⟩⟩

def apartIndex : HeaderIndex := ⟨⟨[("a.h", "/w/i/a.h")]⟩, ["/w/i"]⟩

def respelt : FileSystem := apart "#include \"./a.h\"\n#include \"a.h\"\n"

def respeltGraph : Graph where
  root := "/w/m.cpp"
  nodes := ⟨[
    ("/w/m.cpp", ⟨.source, .file "/w/m.cpp" true, .resolved, none, some [.file "/w/a.h", .file "/w/a.h"]⟩),
    ("/w/a.h", ⟨.header, .file "/w/a.h" false, .resolved, some "/w/m.cpp", none⟩)]⟩
  systems := {}
  usedPaths := ["/w/i", "/w"]
  diagnostics := [.missing "/w/a.h"]

private theorem respelt_indexed : (HeaderIndex.build respelt [".h"] [⟨"i", ""⟩]).2 = .ok apartIndex := by decide +kernel

private theorem respelt_built : (Graph.build respelt "m.cpp" [⟨"i", ""⟩] {}).2 = .ok respeltGraph :=
  build_of_endWithin 3 respelt_indexed (by decide +kernel)

private theorem respelt_records :
    Records respelt respeltGraph "/w/m.cpp" ⟨2, "\"a.h\"", "a.h", true⟩ (.file "/w/a.h") := by
  have read : respelt.read "/w/m.cpp" =
    .ok (Text.Utf8.encode "#include \"./a.h\"\n#include \"a.h\"\n".toList) := by decide +kernel
  exact ⟨_, _, _, rfl, read, rfl, by decide +kernel⟩

private theorem respelt_missing : ¬ PresentFile respelt respeltGraph (.file "/w/a.h") := by
  rintro ⟨path, node, bytes, same, -, -, read⟩
  obtain rfl := Ref.file.inj same
  have missing : respelt.read "/w/a.h" = .error .missing := by decide +kernel
  cases missing.symm.trans read

theorem build_shadowed_respelt : (Graph.build respelt "m.cpp" [⟨"i", ""⟩] {}).2 = .ok respeltGraph ∧
    ∃ history past moment future, Chronicle ⟨respelt, apartIndex, {}⟩ "/w/m.cpp" history respeltGraph ∧
      history = past ++ moment :: future ∧ moment.path = "/w/m.cpp" ∧
      moment.directive = ⟨2, "\"a.h\"", "a.h", true⟩ ∧ Shadowed ⟨respelt, apartIndex, {}⟩ past moment := by
  refine ⟨respelt_built, ?_⟩
  obtain ⟨index, history, indexed, chronicle, decides⟩ := build_shadowed respelt_built
  obtain rfl := Except.ok.inj (indexed.symm.trans respelt_indexed)
  rcases decides _ _ _ "/w/i/a.h" respelt_records (by decide +kernel) with
    present | ⟨past, moment, future, split, gives, shadowed⟩
  · exact absurd present respelt_missing
  · have root : Path.absolute respelt.currentPath "m.cpp" = "/w/m.cpp" := by decide +kernel
    exact ⟨history, past, moment, future, root ▸ chronicle, split, gives.path, gives.directive, shadowed⟩

theorem not_indexedPresent_respelt : ¬ IndexedPresent respelt "m.cpp" [⟨"i", ""⟩] {} := by
  intro present
  exact respelt_missing
    (present apartIndex respeltGraph respelt_indexed respelt_built _ _ _ "/w/i/a.h" respelt_records (by decide +kernel))

/-- Directives that are alike have one child, unless one of them is overtaken by the other. -/
theorem build_overtaken (built : (Graph.build files root directories options).2 = .ok graph) :
    ∃ index history, (HeaderIndex.build files options.headerSuffixes directories).2 = .ok index ∧
      Chronicle ⟨files, index, options⟩ (Path.absolute files.currentPath root) history graph ∧
      ∀ path directive child other twin sibling, Records files graph path directive child →
        Records files graph other twin sibling → Alike path directive other twin →
        child = sibling ∨
          ∃ past earlier later future, history = past ++ later :: future ∧ earlier ∈ past ∧
            Overtaken ⟨files, index, options⟩ earlier later ∧
            (earlier.Gives path directive child ∧ later.Gives other twin sibling ∨
              earlier.Gives other twin sibling ∧ later.Gives path directive child) := by
  obtain ⟨index, history, indexed, chronicle⟩ := exists_chronicle built
  refine ⟨index, history, indexed, chronicle, ?_⟩
  intro path directive child other twin sibling records twins alike
  obtain ⟨first, member, rfl, rfl, rfl⟩ := chronicle.gives records
  obtain ⟨second, inside, rfl, rfl, rfl⟩ := chronicle.gives twins
  rcases ordered_of_mem member inside with
    rfl | ⟨past, future, split, before⟩ | ⟨past, future, split, before⟩
  · exact Or.inl rfl
  · rcases same_or_overtaken chronicle.told split before alike with same | overtaken
    · exact Or.inl same
    · exact Or.inr ⟨past, first, second, future, split, before, overtaken, Or.inl ⟨⟨rfl, rfl, rfl⟩, rfl, rfl, rfl⟩⟩
  · rcases same_or_overtaken chronicle.told split before alike.symm with same | overtaken
    · exact Or.inl same.symm
    · exact Or.inr ⟨past, second, first, future, split, before, overtaken, Or.inr ⟨⟨rfl, rfl, rfl⟩, rfl, rfl, rfl⟩⟩

def divided : FileSystem := apart "#include \"a.h\"\n#include \"./a.h\"\n#include \"a.h\"\n"

def dividedGraph : Graph where
  root := "/w/m.cpp"
  nodes := ⟨[
    ("/w/m.cpp",
      ⟨.source, .file "/w/m.cpp" true, .resolved, none, some [.file "/w/i/a.h", .file "/w/a.h", .file "/w/a.h"]⟩),
    ("/w/i/a.h", ⟨.header, .file "/w/i/a.h" true, .resolved, some "/w/m.cpp", some []⟩),
    ("/w/a.h", ⟨.header, .file "/w/a.h" false, .resolved, some "/w/m.cpp", none⟩)]⟩
  systems := {}
  usedPaths := ["/w/i", "/w"]
  diagnostics := [.missing "/w/a.h"]

private theorem divided_indexed : (HeaderIndex.build divided [".h"] [⟨"i", ""⟩]).2 = .ok apartIndex := by decide +kernel

private theorem divided_built : (Graph.build divided "m.cpp" [⟨"i", ""⟩] {}).2 = .ok dividedGraph :=
  build_of_endWithin 4 divided_indexed (by decide +kernel)

private theorem divided_records :
    Records divided dividedGraph "/w/m.cpp" ⟨1, "\"a.h\"", "a.h", true⟩ (.file "/w/i/a.h") ∧
      Records divided dividedGraph "/w/m.cpp" ⟨3, "\"a.h\"", "a.h", true⟩ (.file "/w/a.h") := by
  have read : divided.read "/w/m.cpp" =
    .ok (Text.Utf8.encode "#include \"a.h\"\n#include \"./a.h\"\n#include \"a.h\"\n".toList) := by decide +kernel
  exact ⟨⟨_, _, _, rfl, read, rfl, by decide +kernel⟩, _, _, _, rfl, read, rfl, by decide +kernel⟩

theorem build_overtaken_divided : (Graph.build divided "m.cpp" [⟨"i", ""⟩] {}).2 = .ok dividedGraph ∧
    ∃ history past earlier later future, Chronicle ⟨divided, apartIndex, {}⟩ "/w/m.cpp" history dividedGraph ∧
      history = past ++ later :: future ∧ earlier ∈ past ∧ Overtaken ⟨divided, apartIndex, {}⟩ earlier later := by
  refine ⟨divided_built, ?_⟩
  obtain ⟨index, history, indexed, chronicle, overtakes⟩ := build_overtaken divided_built
  obtain rfl := Except.ok.inj (indexed.symm.trans divided_indexed)
  have root : Path.absolute divided.currentPath "m.cpp" = "/w/m.cpp" := by decide +kernel
  rcases overtakes _ _ _ _ _ _ divided_records.1 divided_records.2 ⟨rfl, rfl, rfl⟩ with
    same | ⟨past, earlier, later, future, split, before, overtaken, -⟩
  · simp at same
  · exact ⟨history, past, earlier, later, future, root ▸ chronicle, split, before, overtaken⟩

theorem not_uniform_divided : ¬ Uniform divided "m.cpp" [⟨"i", ""⟩] {} := by
  intro uniform
  have same := uniform dividedGraph divided_built _ _ _ _ _ _ divided_records.1 divided_records.2 ⟨rfl, rfl, rfl⟩
  simp at same

end IncludeGraph.Proofs.Precedence
