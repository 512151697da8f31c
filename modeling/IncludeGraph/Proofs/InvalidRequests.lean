import IncludeGraph.Proofs.Outcomes
import IncludeGraph.Proofs.Writes

/-! What a run leaves behind that exits because something it was asked for is invalid. Declarations are looked at before
anything is written, but the extension of an export only when its turn has come, and by then the links may stand in their
file. Nothing else is ever touched. -/

namespace IncludeGraph.Proofs.InvalidRequests
open CommandLine Closure Deliveries Outcomes Writes

structure Untouched (session : Session) (outcome : Outcome) : Prop where
  files : outcome.session.files = session.files
  written : outcome.written = {}

def Formatless (request : Request) : Prop :=
  ∃ path, request.exportFile = some path ∧ path ≠ "" ∧ formatOf? path = none

def linksPath? (request : Request) : Option String := request.graphviz.filter (· ≠ "")

def linksText (graph : Graph) : String := Report.graphviz graph ++ "\n"

/-- The links stand in their file, which was written completely, and nothing but this file was touched. -/
structure OnlyLinked (session : Session) (graph : Graph) (path : String) (outcome : Outcome) : Prop where
  puts : ∃ place, Lands session.files path place ∧
    Puts session.files place (Text.Utf8.encode (linksText graph).toList) outcome.session.files
  reads : outcome.session.files.read path = .ok (Text.Utf8.encode (linksText graph).toList)
  written : outcome.written = ({} : Table String String).insert path (linksText graph)

/-- What is left behind, by what is invalid and by what else is asked for. Only where links are asked for and the
export is at fault has a file been written by then. -/
inductive Remains (session : Session) (request : Request) (outcome : Outcome) : Prop where
  /-- A declaration lacks its directory, or a declared directory cannot be indexed. -/
  | refused (leads : Leads session.files request .invalid) (untouched : Untouched session outcome)
  | unlinked {graph} (leads : Leads session.files request (.built graph)) (formatless : Formatless request)
      (unasked : linksPath? request = none) (untouched : Untouched session outcome)
  | linked {graph path} (leads : Leads session.files request (.built graph)) (formatless : Formatless request)
      (asked : linksPath? request = some path) (linked : OnlyLinked session graph path outcome)

variable {session : Session} {invocation : Invocation} {request : Request} {graph : Graph}
  {before after : Outcome}

/-- An export makes a run invalid only through its extension, and then it writes nothing. -/
private theorem formatless_of_exports (exports : Exports before request graph after) (invalid : after.exit = 1) :
    Formatless request ∧ Keeps before after := by
  cases exports with
  | unasked => cases (finish_settles _ _).exit.symm.trans invalid
  | formatless asked unknown =>
    obtain ⟨asked, filled⟩ := Option.filter_eq_some_iff.mp asked
    exact ⟨⟨_, asked, of_decide_eq_true filled, unknown⟩, keeps_fail _ _ _⟩
  | refused => cases (failToWrite_settles _ _ _).exit.symm.trans invalid
  | stored => cases (finish_settles _ _).exit.symm.trans invalid

private theorem formatless_of_links (links : Links before request graph after) (invalid : after.exit = 1) :
    Formatless request ∧
      (linksPath? request = none ∧ Keeps before after ∨
        ∃ path files, linksPath? request = some path ∧ before.session.files.write path (linksText graph) = .ok files ∧
          Keeps (before.wrote files path (linksText graph)) after) := by
  cases links with
  | unasked unasked =>
    obtain ⟨formatless, keeps⟩ := formatless_of_exports (exports_writeExport _ _ _) invalid
    exact ⟨formatless, Or.inl ⟨unasked, keeps⟩⟩
  | refused => cases (failToWrite_settles _ _ _).exit.symm.trans invalid
  | stored asked stored keeps =>
    -- The links are written by the time at which the export is refused.
    obtain ⟨formatless, kept⟩ := formatless_of_exports (exports_writeExport _ _ _) invalid
    exact ⟨formatless, Or.inr ⟨_, _, asked, stored, keeps.trans kept⟩⟩

private theorem onlyLinked_of_wrote {path : String} {files : FileSystem}
    (printed : Printed session invocation request graph before)
    (stored : before.session.files.write path (linksText graph) = .ok files)
    (keeps : Keeps (before.wrote files path (linksText graph)) after) : OnlyLinked session graph path after := by
  rw [printed.files] at stored
  obtain ⟨place, lands, puts⟩ := puts_of_write stored
  have kept : after.session.files = files := congrArg Session.files keeps.session
  refine ⟨⟨place, lands, ?_⟩, ?_, ?_⟩
  · rw [kept]
    exact puts
  · rw [kept]
    exact puts.read lands
  · rw [keeps.written, Outcome.wrote, printed.written]

/-- A run that exits because of something invalid leaves the files as they were, unless its export is at fault and the
links are asked for as well: then their file is written, and no other. -/
theorem run_spares (accepted : Request.ofArguments invocation.arguments = .ok request)
    (invalid : (run session invocation).exit = 1) : Remains session request (run session invocation) := by
  rw [run_of_accepted accepted] at invalid ⊢
  obtain ⟨fate, leads⟩ := exists_fate session.files request
  have ends := @answer_ends session invocation request fate leads
  cases fate with
  | invalid => exact .refused leads ⟨ends.2.files, ends.2.written⟩
  | unreadable | broken => cases ends.1.symm.trans invalid
  | built graph =>
    obtain ⟨before, printed, answered⟩ := @answer_built session invocation request graph leads
    rw [answered] at invalid ⊢
    obtain ⟨formatless, ⟨unasked, keeps⟩ | ⟨path, files, asked, stored, keeps⟩⟩ :=
      formatless_of_links (links_writeFiles _ _ _) invalid
    · apply Remains.unlinked leads formatless unasked
      exact ⟨(congrArg Session.files keeps.session).trans printed.files, keeps.written.trans printed.written⟩
    · exact .linked leads formatless asked (onlyLinked_of_wrote printed stored keeps)

def overwriting : Request := { root := "m.cpp", graphviz := some "m.cpp", exportFile := some "m.txt" }

def overwritingInvocation : Invocation := ⟨["m.cpp", "--graphviz", "m.cpp", "--export", "m.txt"], false, none⟩

def overwritten : FileSystem :=
  { lone with entries := lone.entries.insert ["w", "m.cpp"] (textEntry (linksText loneGraph)) }

private theorem overwriting_accepted : Request.ofArguments overwritingInvocation.arguments = .ok overwriting := by
  decide +kernel

private theorem overwriting_ends : (run { files := lone } overwritingInvocation).exit = 1 ∧
    (run { files := lone } overwritingInvocation).session.files = overwritten := by
  have steady : ¬ Stumbles lone overwriting [] := by unfold Stumbles; decide +kernel
  have stored : lone.write "m.cpp" (linksText loneGraph) = .ok overwritten := by decide +kernel
  have asked : outputs {} overwriting loneGraph = [⟨"m.cpp", some (linksText loneGraph)⟩, ⟨"m.txt", none⟩] := by
    decide +kernel
  have delivers : Delivers lone (outputs {} overwriting loneGraph) (.unsupported overwritten) := by
    rw [asked]
    exact .next stored .unsupported
  have reported := @answer_ends { files := lone } overwritingInvocation _ _ (.built .nil steady lone_built)
  obtain ⟨exit, files, -⟩ := reported.ends _ delivers
  rw [run_of_accepted overwriting_accepted]
  exact ⟨exit, files⟩

theorem run_spares_overwriting : Request.ofArguments overwritingInvocation.arguments = .ok overwriting ∧
    (run { files := lone } overwritingInvocation).exit = 1 ∧
    Remains { files := lone } overwriting (run { files := lone } overwritingInvocation) :=
  ⟨overwriting_accepted, overwriting_ends.1, run_spares overwriting_accepted overwriting_ends.1⟩

/-- A run that exits because something is invalid leaves the files as they were. It does so unless the links are
written before the export is looked at. -/
def Spares (session : Session) (invocation : Invocation) : Prop :=
  ∀ request, Request.ofArguments invocation.arguments = .ok request → (run session invocation).exit = 1 →
    Untouched session (run session invocation)

theorem not_spares_overwriting : ¬ Spares { files := lone } overwritingInvocation := by
  intro law
  have untouched := law overwriting overwriting_accepted overwriting_ends.1
  have same : overwritten = lone := overwriting_ends.2.symm.trans untouched.files
  revert same
  decide +kernel

end IncludeGraph.Proofs.InvalidRequests
