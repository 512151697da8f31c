import IncludeGraph.Proofs.Declarations
import IncludeGraph.Proofs.DeclaredErrors
import IncludeGraph.Proofs.Deliveries
import IncludeGraph.Proofs.ParallelRuns

/-! How a run ends. What a request is after decides between a refusal, which prints and writes nothing, and a report. The
report does not depend on the files that are asked for besides, and these decide about the exit alone. -/

namespace IncludeGraph.Proofs.Outcomes
open CommandLine Builds Closure DeclaredErrors ParallelRuns Declarations Deliveries

/-- What a request has searched for. Whether details are told has no part in it. -/
def search (request : Request) : Options := { request.options with debug := false }

/-- A header that opens asks for a companion by a suffix without a text. Suffixes are only looked at when a header is
read, so that a request may never come to it. -/
def Stumbles (files : FileSystem) (request : Request) (directories : List IncludeDirectory) : Prop :=
  (toldUntilLackingSuffix files { request with verbose := false } directories).isSome = true

inductive Fate where
  | invalid
  | unreadable
  | broken
  | built (graph : Graph)

/-- What a request comes to, told from its declarations, the index and the traversal alone. Nothing is said here of
what is printed, which is what `Ends` adds for each fate. -/
inductive Leads (files : FileSystem) (request : Request) : Fate → Prop where
  | misdeclared (misdeclared : Misdeclared request.includes) : Leads files request .invalid
  | unindexed {directories refusal} (declares : List.Forall₂ Declares request.includes directories)
      (refused : (HeaderIndex.build files (search request).headerSuffixes directories).2 = .error refusal) :
    Leads files request .invalid
  | unreadable {directories path fault} (declares : List.Forall₂ Declares request.includes directories)
      (steady : ¬ Stumbles files request directories)
      (failed : (Graph.build files request.root directories (search request)).2 =
        .error (.traversal (.unreadable path fault))) :
    Leads files request .unreadable
  | built {directories graph} (declares : List.Forall₂ Declares request.includes directories)
      (steady : ¬ Stumbles files request directories)
      (built : (Graph.build files request.root directories (search request)).2 = .ok graph) :
    Leads files request (.built graph)
  | textless (textless : Textless request.includes) : Leads files request .broken
  | stumbles {directories} (declares : List.Forall₂ Declares request.includes directories)
      (stumbles : Stumbles files request directories) :
    Leads files request .broken
  | null {directories} (declares : List.Forall₂ Declares request.includes directories)
      (steady : ¬ Stumbles files request directories)
      (failed : (Graph.build files request.root directories (search request)).2 = .error (.traversal .nullByte)) :
    Leads files request .broken

def reportText (session : Session) (invocation : Invocation) (request : Request) (graph : Graph) : String :=
  match request.form with
  | .json => Report.document graph
  | .text =>
    let colored := (Palette.isWanted request.noColor invocation.noColor invocation.terminal).2
    Report.summary (if colored then session.palette else .plain) graph

structure Silent (session : Session) (outcome : Outcome) : Prop where
  out : outcome.out = ""
  written : outcome.written = {}
  files : outcome.session.files = session.files
  stamp : outcome.session.stamp = session.stamp

structure Printed (session : Session) (invocation : Invocation) (request : Request) (graph : Graph)
    (outcome : Outcome) : Prop where
  out : outcome.out = reportText session invocation request graph ++ "\n"
  written : outcome.written = {}
  files : outcome.session.files = session.files
  stamp : outcome.session.stamp = session.stamp

/-- The report is printed, and the exit says what became of the files. Only a path that no system call can carry breaks
the run off behind the report. -/
structure Reported (session : Session) (invocation : Invocation) (request : Request) (graph : Graph)
    (outcome : Outcome) : Prop where
  delivers : ∃ delivery, Delivers session.files (outputs session.stamp request graph) delivery
  ends : ∀ delivery, Delivers session.files (outputs session.stamp request graph) delivery →
    outcome.exit = delivery.exit ∧ outcome.session.files = delivery.files ∧
      ((∀ files, delivery ≠ .refused files .nullByte) →
        outcome.out = reportText session invocation request graph ++ "\n")
  zero_iff : outcome.exit = 0 ↔
    ∃ after, Delivers session.files (outputs session.stamp request graph) (.done after)

def Ends (session : Session) (invocation : Invocation) (request : Request) (outcome : Outcome) : Fate → Prop
  | .invalid => outcome.exit = 1 ∧ Silent session outcome
  | .unreadable => outcome.exit = 2 ∧ Silent session outcome
  | .broken => outcome.exit = 2 ∧ outcome.out ≠ "" ∧ outcome.written = {} ∧ outcome.session.files = session.files
  | .built graph => Reported session invocation request graph outcome

theorem Silent.keep {session : Session} {before after : Outcome} (silent : Silent session before)
    (keeps : Keeps before after) : Silent session after :=
  ⟨keeps.out.trans silent.out, keeps.written.trans silent.written, keeps.session ▸ silent.files,
    keeps.session ▸ silent.stamp⟩

variable {files : FileSystem} {session : Session} {invocation : Invocation} {request : Request} {fate : Fate}
  {directories : List IncludeDirectory} {graph : Graph}

theorem stumbles_iff : (toldUntilLackingSuffix files request directories).isSome = true ↔
    Stumbles files request directories := by
  have quiet : ({ request with verbose := false } : Request).options = { request.options with debug := false } := rfl
  unfold Stumbles toldUntilLackingSuffix
  rw [quiet]
  dsimp only
  rcases HeaderIndex.build files request.options.headerSuffixes directories with ⟨told, refusal | index⟩
  · rfl
  dsimp only
  split
  · have start := Agree.refl ((Traversal.initial index).add .source (Path.absolute files.currentPath request.root) none)
    have akin : Akin ⟨files, index, request.options⟩ ⟨files, index, { request.options with debug := false }⟩ :=
      ⟨rfl, fun _ => rfl, rfl⟩
    rw [Option.isSome_map, Option.isSome_map, start.firstHeader? akin fun _ => Iff.rfl]
  · rfl

theorem build_search (files : FileSystem) (request : Request) (directories : List IncludeDirectory) :
    (Graph.build files request.root directories request.options).2 =
      (Graph.build files request.root directories (search request)).2 :=
  (build_debug files request.root directories request.options false).symm

theorem exists_fate (files : FileSystem) (request : Request) : ∃ fate, Leads files request fate := by
  rcases declarations_cases request.includes with misdeclared | textless | ⟨directories, declares⟩
  · exact ⟨_, .misdeclared misdeclared⟩
  · exact ⟨_, .textless textless⟩
  by_cases stumbles : Stumbles files request directories
  · exact ⟨_, .stumbles declares stumbles⟩
  cases built : (Graph.build files request.root directories (search request)).2 with
  | ok graph => exact ⟨_, .built declares stumbles built⟩
  | error error =>
    rcases declared_or_null built with declared | rfl
    · cases declared with
      | index refusal => exact ⟨_, .unindexed declares (build_refused_iff.mp built)⟩
      | unreadable path fault => exact ⟨_, .unreadable declares stumbles built⟩
    · exact ⟨_, .null declares stumbles built⟩

/-- Switching verbosity and colors leaves the output and the files alone. -/
theorem prepare_spec (session : Session) (request : Request) (invocation : Invocation) :
    Silent session (prepare (.start session) request invocation).1 ∧
    (prepare (.start session) request invocation).2 =
      (Palette.isWanted request.noColor invocation.noColor invocation.terminal).2 ∧
    (prepare (.start session) request invocation).1.session.palette =
      if (Palette.isWanted request.noColor invocation.noColor invocation.terminal).2 then session.palette else .plain := by
  unfold prepare
  rcases Palette.isWanted request.noColor invocation.noColor invocation.terminal with ⟨told, colored⟩
  cases request.verbose <;> cases colored <;> exact ⟨⟨rfl, rfl, rfl, rfl⟩, rfl, rfl⟩

theorem report_spec (outcome : Outcome) (request : Request) (colored : Bool) (graph : Graph) :
    (report outcome request colored graph).session = outcome.session ∧
    (report outcome request colored graph).written = outcome.written ∧
    (report outcome request colored graph).out = outcome.out ++ ((match request.form with
      | .json => Report.document graph
      | .text => Report.summary (if colored then outcome.session.palette else .plain) graph) ++ "\n") := by
  unfold report
  generalize (if colored then outcome.session.palette else .plain) = palette
  cases request.form with
  | json => exact ⟨rfl, rfl, rfl⟩
  | text =>
    dsimp only
    split
    · exact ⟨rfl, rfl, rfl⟩
    · exact ⟨rfl, rfl, rfl⟩

private theorem steady_of_refused {refusal : HeaderIndex.Refusal}
    (refused : (HeaderIndex.build files request.options.headerSuffixes directories).2 = .error refusal) :
    toldUntilLackingSuffix files request directories = none := by
  unfold toldUntilLackingSuffix
  obtain ⟨told, indexed⟩ : ∃ told, HeaderIndex.build files request.options.headerSuffixes directories =
    (told, .error refusal) := ⟨_, Prod.ext rfl refused⟩
  rw [indexed]

private theorem told_build {result : Except BuildError Graph}
    (ended : (Graph.build files request.root directories (search request)).2 = result) :
    ∃ told, Graph.build files request.root directories request.options = (told, result) :=
  ⟨_, Prod.ext rfl ((build_search files request directories).trans ended)⟩

private theorem broken_ends {outcome : Outcome} (silent : Silent session outcome) (message : String) :
    Ends session invocation request (outcome.crash message) .broken := by
  obtain ⟨exit, out, written, kept⟩ := crash_spec outcome message
  exact ⟨exit, out, written.trans silent.written, by rw [kept, silent.files]⟩

private theorem report_printed {outcome : Outcome} {colored : Bool} (silent : Silent session outcome)
    (wanted : colored = (Palette.isWanted request.noColor invocation.noColor invocation.terminal).2)
    (palette : outcome.session.palette =
      if (Palette.isWanted request.noColor invocation.noColor invocation.terminal).2 then session.palette else .plain)
    (graph : Graph) : Printed session invocation request graph (report outcome request colored graph) := by
  obtain ⟨kept, written, out⟩ := report_spec outcome request colored graph
  refine ⟨?_, written.trans silent.written, by rw [kept, silent.files], by rw [kept, silent.stamp]⟩
  rw [out, silent.out, String.empty_append, reportText, palette, wanted]
  congr 1
  split
  · rfl
  · dsimp only
    split <;> rfl

/-- Behind a report, what becomes of the files decides about the exit. -/
theorem writeFiles_reported {outcome : Outcome} (printed : Printed session invocation request graph outcome) :
    Reported session invocation request graph (writeFiles outcome request graph) := by
  have ends : ∀ delivery, Delivers session.files (outputs session.stamp request graph) delivery →
      (writeFiles outcome request graph).exit = delivery.exit ∧
      (writeFiles outcome request graph).session.files = delivery.files ∧
      ((∀ files, delivery ≠ .refused files .nullByte) →
        (writeFiles outcome request graph).out = reportText session invocation request graph ++ "\n") := by
    intro delivery delivers
    rw [← printed.files, ← printed.stamp] at delivers
    have settles := writeFiles_settles delivers
    exact ⟨settles.exit, settles.files, fun carried => (settles.out carried).trans printed.out⟩
  refine ⟨exists_delivery _ _, ends, ?_⟩
  constructor
  · intro zero
    obtain ⟨delivery, delivers⟩ := exists_delivery session.files (outputs session.stamp request graph)
    have exit := (ends delivery delivers).1.symm.trans zero
    cases delivery with
    | done after => exact ⟨after, delivers⟩
    | unsupported => cases exit
    | refused => cases exit
  · rintro ⟨after, delivers⟩
    exact (ends _ delivers).1

private theorem steady_of_not_stumbles (steady : ¬ Stumbles files request directories) :
    toldUntilLackingSuffix files request directories = none := by
  rw [← stumbles_iff] at steady
  simpa using steady

/-- Where a graph is built, its report is printed before files are written. -/
theorem answer_built (leads : Leads session.files request (.built graph)) :
    ∃ outcome, Printed session invocation request graph outcome ∧
      answer session request invocation = writeFiles outcome request graph := by
  obtain ⟨silent, wanted, palette⟩ := prepare_spec session request invocation
  rcases prepared : prepare (.start session) request invocation with ⟨outcome, colored⟩
  rw [prepared] at silent wanted palette
  cases leads with
  | built declares steady built =>
    obtain ⟨told, built⟩ := told_build built
    have shown := keeps_display outcome told
    refine ⟨report (outcome.display told) request colored graph, ?_, ?_⟩
    · exact report_printed (silent.keep shown) wanted ((congrArg Session.palette shown.session).trans palette) graph
    · simp only [answer, prepared, directories_declared declares, steady_of_not_stumbles steady, built]

/-- The answer to a request, once its fate is known. -/
theorem answer_ends (leads : Leads session.files request fate) :
    Ends session invocation request (answer session request invocation) fate := by
  obtain ⟨silent, -⟩ := prepare_spec session request invocation
  rcases prepared : prepare (.start session) request invocation with ⟨outcome, colored⟩
  rw [prepared] at silent
  cases leads with
  | misdeclared misdeclared =>
    obtain ⟨fault, failed⟩ := directories_misdeclared misdeclared
    simp only [answer, prepared, failed]
    exact ⟨rfl, silent.keep (keeps_fail _ _ _)⟩
  | unindexed declares refused =>
    obtain ⟨told, failed⟩ := told_build (build_refused_iff.mpr refused)
    simp only [answer, prepared, directories_declared declares, steady_of_refused refused, failed, failToBuild]
    exact ⟨rfl, silent.keep ((keeps_display _ _).trans (keeps_fail _ _ _))⟩
  | unreadable declares steady failed =>
    obtain ⟨told, failed⟩ := told_build failed
    simp only [answer, prepared, directories_declared declares, steady_of_not_stumbles steady, failed, failToBuild]
    exact ⟨rfl, silent.keep ((keeps_display _ _).trans (keeps_fail _ _ _))⟩
  | built declares steady built =>
    obtain ⟨printing, printed, answered⟩ := answer_built (.built declares steady built)
    rw [answered]
    exact writeFiles_reported printed
  | textless textless =>
    simp only [answer, prepared, directories_textless textless]
    exact broken_ends silent _
  | stumbles declares stumbles =>
    obtain ⟨told, stopped⟩ := Option.isSome_iff_exists.mp (stumbles_iff.mpr stumbles)
    simp only [answer, prepared, directories_declared declares, stopped]
    exact broken_ends (silent.keep (keeps_display _ _)) _
  | null declares steady failed =>
    obtain ⟨told, failed⟩ := told_build failed
    simp only [answer, prepared, directories_declared declares, steady_of_not_stumbles steady, failed, failToBuild]
    exact broken_ends (silent.keep (keeps_display _ _)) _

theorem run_of_accepted (accepted : Request.ofArguments invocation.arguments = .ok request) :
    run session invocation = answer session request invocation := by
  rw [run, accepted]

/-- How a run ends is settled by the fate of its request, and every request has one. -/
theorem run_ends (accepted : Request.ofArguments invocation.arguments = .ok request) :
    (∃ fate, Leads session.files request fate) ∧
    ∀ fate, Leads session.files request fate → Ends session invocation request (run session invocation) fate := by
  refine ⟨exists_fate _ _, fun fate leads => ?_⟩
  rw [run_of_accepted accepted]
  exact answer_ends leads

def lone : FileSystem :=
  ⟨["w"], ⟨[(["w"], .directory true), (["w", "m.cpp"], textEntry "#include \"a.h\"\n")]⟩⟩

def loneGraph : Graph where
  root := "/w/m.cpp"
  nodes := ⟨[
    ("/w/m.cpp", ⟨.source, .file "/w/m.cpp" true, .resolved, none, some [.file "/w/a.h"]⟩),
    ("/w/a.h", ⟨.header, .file "/w/a.h" false, .resolved, some "/w/m.cpp", none⟩)]⟩
  systems := {}
  usedPaths := ["/w"]
  diagnostics := [.missing "/w/a.h"]

def asked : Request := { root := "m.cpp", graphviz := some "e.gv", exportFile := some "g.txt", verbose := true }

def askedInvocation : Invocation := ⟨["-v", "m.cpp", "--graphviz", "e.gv", "--export=g.txt"], true, none⟩

def linkedFiles : FileSystem :=
  { lone with entries := lone.entries.insert ["w", "e.gv"] (textEntry (Report.graphviz loneGraph ++ "\n")) }

private theorem lone_indexed : (HeaderIndex.build lone [".h"] []).2 = .ok {} := by decide +kernel

theorem lone_built : (Graph.build lone "m.cpp" [] {}).2 = .ok loneGraph :=
  build_of_endWithin 3 lone_indexed (by decide +kernel)

theorem run_ends_asked : Request.ofArguments askedInvocation.arguments = .ok asked ∧
    (run { files := lone } askedInvocation).exit = 1 ∧
    (run { files := lone } askedInvocation).session.files = linkedFiles ∧
    (run { files := lone } askedInvocation).out = Report.summary .standard loneGraph ++ "\n" := by
  have accepted : Request.ofArguments askedInvocation.arguments = .ok asked := by decide +kernel
  have steady : ¬ Stumbles lone asked [] := by unfold Stumbles; decide +kernel
  have stored : lone.write "e.gv" (Report.graphviz loneGraph ++ "\n") = .ok linkedFiles := by decide +kernel
  have files : outputs {} asked loneGraph = [⟨"e.gv", some (Report.graphviz loneGraph ++ "\n")⟩, ⟨"g.txt", none⟩] := by
    decide +kernel
  have delivers : Delivers lone (outputs {} asked loneGraph) (.unsupported linkedFiles) := by
    rw [files]
    exact .next stored .unsupported
  obtain ⟨-, ends⟩ := @run_ends { files := lone } _ _ accepted
  have reported := ends _ (.built .nil steady lone_built)
  obtain ⟨exit, files, out⟩ := reported.ends _ delivers
  exact ⟨accepted, exit, files, out nofun⟩

/-- A declaration that lacks its directory makes a request invalid, wherever it stands. -/
def LackingRefused (session : Session) (invocation : Invocation) : Prop :=
  ∀ request, Request.ofArguments invocation.arguments = .ok request →
    (∃ declaration, some declaration ∈ request.includes ∧ LacksDirectory declaration) →
      Ends session invocation request (run session invocation) .invalid

/-- A separator as the attached value of an option leaves a declaration without a text. -/
def separated : Invocation := ⟨["m.cpp", "--include=--", "-I", "#x"], false, none⟩

theorem not_lackingRefused_separated : ¬ LackingRefused { files := lone } separated := by
  intro law
  have accepted : Request.ofArguments separated.arguments = .ok { root := "m.cpp", includes := [none, some "#x"] } := by
    decide +kernel
  obtain ⟨invalid, -⟩ := law _ accepted ⟨"#x", by simp, Or.inr ⟨"x", rfl, by decide⟩⟩
  have leads : Leads lone { root := "m.cpp", includes := [none, some "#x"] } .broken := .textless .here
  obtain ⟨broken, -⟩ := @answer_ends { files := lone } separated _ _ leads
  rw [run_of_accepted accepted] at invalid
  cases invalid.symm.trans broken

end IncludeGraph.Proofs.Outcomes
