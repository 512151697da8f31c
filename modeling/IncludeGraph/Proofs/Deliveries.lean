import IncludeGraph.CommandLine.Run
import Mathlib.Tactic.Common

/-! What becomes of the files that a request asks for. They are written one after the other, and the first that cannot be
written decides how the run exits; what is on the output by then stays as it is. -/

namespace IncludeGraph.Proofs.Deliveries
open CommandLine

/-- A file that is asked for, and its text unless no format has its extension. -/
structure Output where
  path : String
  text : Option String
  deriving DecidableEq

def formatOf? (path : String) : Option Network.Format :=
  Network.Format.extensions.lookup (Text.lower (Path.extension path))

def linkOutputs (request : Request) (graph : Graph) : List Output :=
  ((request.graphviz.filter (· ≠ "")).map fun path => ⟨path, some (Report.graphviz graph ++ "\n")⟩).toList

def exportOutputs (stamp : Network.Gexf.Stamp) (request : Request) (graph : Graph) : List Output :=
  ((request.exportFile.filter (· ≠ "")).map fun path =>
    ⟨path, (formatOf? path).map fun format => format.document stamp (Network.ofGraph graph)⟩).toList

def outputs (stamp : Network.Gexf.Stamp) (request : Request) (graph : Graph) : List Output :=
  linkOutputs request graph ++ exportOutputs stamp request graph

inductive Delivery where
  | done (files : FileSystem)
  | unsupported (files : FileSystem)
  | refused (files : FileSystem) (fault : Fault)

def Delivery.exit : Delivery → Nat
  | done _ => 0
  | unsupported _ => 1
  | refused _ _ => 2

def Delivery.files : Delivery → FileSystem
  | done files | unsupported files | refused files _ => files

/-- The files are written one after the other, up to the first that cannot be. What was written by then stays, so that
every delivery carries the file system at its end. -/
inductive Delivers : FileSystem → List Output → Delivery → Prop where
  | done {files} : Delivers files [] (.done files)
  | next {files after path text rest delivery} (stored : files.write path text = .ok after)
      (later : Delivers after rest delivery) :
    Delivers files (⟨path, some text⟩ :: rest) delivery
  | unsupported {files path rest} : Delivers files (⟨path, none⟩ :: rest) (.unsupported files)
  | refused {files path text rest fault} (failed : files.write path text = .error fault) :
    Delivers files (⟨path, some text⟩ :: rest) (.refused files fault)

variable {files : FileSystem} {asked : List Output} {delivery : Delivery} {before middle after outcome : Outcome}
  {request : Request} {graph : Graph}

theorem exists_delivery (files : FileSystem) (asked : List Output) : ∃ delivery, Delivers files asked delivery := by
  induction asked generalizing files with
  | nil => exact ⟨_, .done⟩
  | cons output rest ih =>
    obtain ⟨path, text?⟩ := output
    cases text? with
    | none => exact ⟨_, .unsupported⟩
    | some text =>
      cases stored : files.write path text with
      | error fault => exact ⟨_, .refused stored⟩
      | ok after =>
        obtain ⟨delivery, later⟩ := ih after
        exact ⟨delivery, .next stored later⟩

theorem Delivers.unique {other : Delivery} (first : Delivers files asked delivery)
    (second : Delivers files asked other) : delivery = other := by
  induction first with
  | done =>
    cases second
    rfl
  | next stored _ ih =>
    cases second with
    | next again later =>
      obtain rfl := Except.ok.inj (stored.symm.trans again)
      exact ih later
    | refused failed => cases stored.symm.trans failed
  | unsupported =>
    cases second
    rfl
  | refused failed =>
    cases second with
    | next stored => cases failed.symm.trans stored
    | refused again => rw [Except.error.inj (failed.symm.trans again)]

/-- Nothing changes but the error stream and the exit. All messages to the user that come with the writing of files
are of this kind. -/
structure Keeps (before after : Outcome) : Prop where
  out : after.out = before.out
  written : after.written = before.written
  session : after.session = before.session

theorem Keeps.trans (first : Keeps before middle) (second : Keeps middle after) : Keeps before after :=
  ⟨second.out.trans first.out, second.written.trans first.written, second.session.trans first.session⟩

private theorem keeps_complain (outcome : Outcome) (text : String) : Keeps outcome (outcome.complain text) :=
  ⟨rfl, rfl, rfl⟩

theorem keeps_display (outcome : Outcome) (records : List Log.Record) : Keeps outcome (outcome.display records) :=
  keeps_complain outcome _

theorem keeps_fail (outcome : Outcome) (exit : Nat) (message : String) : Keeps outcome (outcome.fail exit message) :=
  ⟨rfl, rfl, rfl⟩

/-- A crash speaks up on the output, but leaves files alone. -/
theorem crash_spec (outcome : Outcome) (message : String) : (outcome.crash message).exit = 2 ∧
    (outcome.crash message).out ≠ "" ∧ (outcome.crash message).written = outcome.written ∧
    (outcome.crash message).session = outcome.session := by
  obtain ⟨text, ends⟩ : ∃ text, (outcome.crash message).out = outcome.out ++ (text ++ "\n") := ⟨_, rfl⟩
  refine ⟨rfl, ?_, rfl, rfl⟩
  intro empty
  rw [ends] at empty
  have characters := congrArg String.toList empty
  simp at characters

/-- The files are delivered, and the output stays as it is unless a path with a null byte breaks the run off: no
system call can carry it, so that the run crashes and says so on the output. -/
structure Settles (before after : Outcome) (delivery : Delivery) : Prop where
  exit : after.exit = delivery.exit
  files : after.session.files = delivery.files
  out : (∀ files, delivery ≠ .refused files .nullByte) → after.out = before.out

private theorem Settles.behind (settles : Settles middle after delivery) (same : middle.out = before.out) :
    Settles before after delivery :=
  ⟨settles.exit, settles.files, fun carried => (settles.out carried).trans same⟩

theorem finish_settles (outcome : Outcome) (graph : Graph) :
    Settles outcome (finish outcome graph) (.done outcome.session.files) := by
  unfold finish
  split
  · exact ⟨rfl, rfl, fun _ => rfl⟩
  · exact ⟨rfl, rfl, fun _ => rfl⟩

theorem failToWrite_settles (outcome : Outcome) (path : String) (fault : Fault) :
    Settles outcome (outcome.failToWrite path fault) (.refused outcome.session.files fault) := by
  cases fault with
  | nullByte => exact ⟨rfl, rfl, fun carried => absurd rfl (carried _)⟩
  | _ => exact ⟨rfl, rfl, fun _ => rfl⟩

section
variable {path : String} {format : Network.Format} {stamp : Network.Gexf.Stamp} {after : FileSystem} {fault : Fault}

theorem exportGraph_unsupported (unknown : formatOf? path = none) :
    ∃ extension, Network.exportGraph files graph path stamp = .error (.unsupported extension) := by
  rw [formatOf?] at unknown
  unfold Network.exportGraph
  simp [unknown]

theorem exportGraph_refused (known : formatOf? path = some format)
    (failed : files.write path (format.document stamp (Network.ofGraph graph)) = .error fault) :
    Network.exportGraph files graph path stamp = .error (.unwritable path fault) := by
  rw [formatOf?] at known
  unfold Network.exportGraph
  simp [known, failed]

theorem exportGraph_stored (known : formatOf? path = some format)
    (stored : files.write path (format.document stamp (Network.ofGraph graph)) = .ok after) :
    ∃ told, Network.exportGraph files graph path stamp =
      .ok ⟨after, format.document stamp (Network.ofGraph graph), told⟩ := by
  rw [formatOf?] at known
  unfold Network.exportGraph
  simp [known, stored]

end

def exportText (outcome : Outcome) (format : Network.Format) (graph : Graph) : String :=
  format.document outcome.session.stamp (Network.ofGraph graph)

inductive Exports (outcome : Outcome) (request : Request) (graph : Graph) : Outcome → Prop where
  | unasked (unasked : request.exportFile.filter (· ≠ "") = none) :
    Exports outcome request graph (finish outcome graph)
  | formatless {path message} (asked : request.exportFile.filter (· ≠ "") = some path)
      (unknown : formatOf? path = none) :
    Exports outcome request graph (outcome.fail 1 message)
  | refused {path format fault} (asked : request.exportFile.filter (· ≠ "") = some path)
      (known : formatOf? path = some format)
      (failed : outcome.session.files.write path (exportText outcome format graph) = .error fault) :
    Exports outcome request graph (outcome.failToWrite path fault)
  | stored {path format files shown} (asked : request.exportFile.filter (· ≠ "") = some path)
      (known : formatOf? path = some format)
      (stored : outcome.session.files.write path (exportText outcome format graph) = .ok files)
      (keeps : Keeps (outcome.wrote files path (exportText outcome format graph)) shown) :
    Exports outcome request graph (finish shown graph)

theorem exports_writeExport (outcome : Outcome) (request : Request) (graph : Graph) :
    Exports outcome request graph (writeExport outcome request graph) := by
  unfold writeExport
  cases asked : request.exportFile.filter (· ≠ "") with
  | none => exact .unasked asked
  | some path =>
    cases known : formatOf? path with
    | none =>
      obtain ⟨extension, failed⟩ :=
        @exportGraph_unsupported outcome.session.files graph path outcome.session.stamp known
      simp only [failed]
      exact .formatless asked known
    | some format =>
      cases stored : outcome.session.files.write path (exportText outcome format graph) with
      | error fault =>
        simp only [exportGraph_refused known stored]
        exact .refused asked known stored
      | ok files =>
        obtain ⟨told, exported⟩ := exportGraph_stored known stored
        simp only [exported]
        exact .stored asked known stored ((keeps_display _ _).trans (keeps_complain _ _))

/-- How the writing of files begins: with the links, if they are asked for, and without an export where these cannot be
written. -/
inductive Links (outcome : Outcome) (request : Request) (graph : Graph) : Outcome → Prop where
  | unasked (unasked : request.graphviz.filter (· ≠ "") = none) :
    Links outcome request graph (writeExport outcome request graph)
  | refused {path fault} (asked : request.graphviz.filter (· ≠ "") = some path)
      (failed : outcome.session.files.write path (Report.graphviz graph ++ "\n") = .error fault) :
    Links outcome request graph (outcome.failToWrite path fault)
  | stored {path files shown} (asked : request.graphviz.filter (· ≠ "") = some path)
      (stored : outcome.session.files.write path (Report.graphviz graph ++ "\n") = .ok files)
      (keeps : Keeps (outcome.wrote files path (Report.graphviz graph ++ "\n")) shown) :
    Links outcome request graph (writeExport shown request graph)

theorem links_writeFiles (outcome : Outcome) (request : Request) (graph : Graph) :
    Links outcome request graph (writeFiles outcome request graph) := by
  unfold writeFiles
  cases asked : request.graphviz.filter (· ≠ "") with
  | none => exact .unasked asked
  | some path =>
    cases stored : outcome.session.files.write path (Report.graphviz graph ++ "\n") with
    | error fault =>
      simp only [stored]
      exact .refused asked stored
    | ok files =>
      simp only [stored]
      exact .stored asked stored (keeps_complain _ _)

theorem Exports.settles (exports : Exports outcome request graph after)
    (delivers : Delivers outcome.session.files (exportOutputs outcome.session.stamp request graph) delivery) :
    Settles outcome after delivery := by
  unfold exportOutputs at delivers
  cases exports with
  | unasked unasked =>
    rw [unasked] at delivers
    obtain rfl := delivers.unique .done
    exact finish_settles _ _
  | formatless asked unknown =>
    rw [asked, Option.map_some, Option.toList_some, unknown] at delivers
    obtain rfl := delivers.unique .unsupported
    exact ⟨rfl, rfl, fun _ => rfl⟩
  | refused asked known failed =>
    rw [asked, Option.map_some, Option.toList_some, known, Option.map_some] at delivers
    obtain rfl := delivers.unique (.refused failed)
    exact failToWrite_settles _ _ _
  | @stored path format files shown asked known stored keeps =>
    rw [asked, Option.map_some, Option.toList_some, known, Option.map_some] at delivers
    obtain rfl := delivers.unique (.next stored .done)
    have kept : shown.session.files = files := congrArg Session.files keeps.session
    rw [← kept]
    exact (finish_settles shown graph).behind keeps.out

theorem writeFiles_settles
    (delivers : Delivers outcome.session.files (outputs outcome.session.stamp request graph) delivery) :
    Settles outcome (writeFiles outcome request graph) delivery := by
  have links := links_writeFiles outcome request graph
  generalize writeFiles outcome request graph = after at links ⊢
  unfold outputs linkOutputs at delivers
  cases links with
  | unasked unasked =>
    rw [unasked] at delivers
    exact (exports_writeExport _ _ _).settles delivers
  | refused asked failed =>
    rw [asked, Option.map_some, Option.toList_some, List.singleton_append] at delivers
    obtain rfl := delivers.unique (.refused failed)
    exact failToWrite_settles _ _ _
  | @stored path files shown asked stored keeps =>
    rw [asked, Option.map_some, Option.toList_some, List.singleton_append] at delivers
    obtain ⟨last, later⟩ := exists_delivery files (exportOutputs outcome.session.stamp request graph)
    obtain rfl := delivers.unique (.next stored later)
    -- The export is written to the files as the links have left them.
    have kept : shown.session.files = files := congrArg Session.files keeps.session
    have stamp : shown.session.stamp = outcome.session.stamp := by rw [keeps.session, Outcome.wrote]
    rw [← kept, ← stamp] at later
    exact ((exports_writeExport _ _ _).settles later).behind keeps.out

end IncludeGraph.Proofs.Deliveries
