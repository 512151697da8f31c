import IncludeGraph.CommandLine.Help
import IncludeGraph.CommandLine.Request
import IncludeGraph.Graph.Build
import IncludeGraph.Network.Export
import IncludeGraph.Report.Document
import IncludeGraph.Report.Graphviz
import IncludeGraph.Report.Summary

/-! One run of the command: what it prints and writes, and how it exits. -/

namespace IncludeGraph.CommandLine

/-- What outlasts a run: the files, the colors, which stay off once they were switched off, whether all records are
shown, and what exports tell about their making. -/
structure Session where
  files : FileSystem
  palette : Palette := .standard
  isVerbose : Bool := false
  stamp : Network.Gexf.Stamp := {}

structure Invocation where
  arguments : List String
  terminal : Bool := false
  noColor : Option String := none

/-- What a run leaves behind; the written texts are listed under the paths as they were given. -/
structure Outcome where
  exit : Nat
  out : String := ""
  err : String := ""
  written : Table String String := {}
  session : Session

def recordLine (record : Log.Record) : String := record.level.name ++ ": " ++ record.message ++ "\n"

namespace Outcome

def start (session : Session) : Outcome := { exit := 0, session }

def print (outcome : Outcome) (text : String) : Outcome := { outcome with out := outcome.out ++ text }

def complain (outcome : Outcome) (text : String) : Outcome := { outcome with err := outcome.err ++ text }

/-- Shows records, of which only warnings matter unless the session is verbose. -/
def display (outcome : Outcome) (records : List Log.Record) : Outcome :=
  outcome.complain (String.join
    ((records.filter fun record => outcome.session.isVerbose || record.level = .warning).map recordLine))

def leave (outcome : Outcome) (exit : Nat) : Outcome := { outcome with exit }

def fail (outcome : Outcome) (exit : Nat) (message : String) : Outcome :=
  (outcome.complain (outcome.session.palette.errorLine message true)).leave exit

/-- Ends after something that no run should meet. -/
def crash (outcome : Outcome) (message : String) : Outcome :=
  let palette := outcome.session.palette
  ((outcome.complain ("CRITICAL: Unexpected error: " ++ message ++ "\n")).print
    ("\n" ++ palette.red ++ "Fatal error: " ++ message ++ palette.reset ++ "\n" ++ palette.yellow
      ++ "Run with --verbose for more details" ++ palette.reset ++ "\n")).leave 2

def wrote (outcome : Outcome) (files : FileSystem) (path text : String) : Outcome :=
  { outcome with
    written := outcome.written.insert path text
    session := { outcome.session with files } }

def failToWrite (outcome : Outcome) (path : String) (fault : Fault) : Outcome :=
  match fault with
  | .nullByte => outcome.crash (fault.message path)
  | _ => outcome.fail 2 ("Failed to write output: " ++ fault.message path)

end Outcome

inductive DeclarationError where
  | noDirectory (fault : IncludeDirectory.NoDirectory)
  | noText
  deriving DecidableEq, Repr

/-- The include directories of declarations, up to the first that names no directory. -/
def directories : List (Option String) → Except DeclarationError (List IncludeDirectory)
  | [] => .ok []
  | none :: _ => .error .noText
  | some declaration :: rest =>
    match IncludeDirectory.parse declaration with
    | .error fault => .error (.noDirectory fault)
    | .ok directory =>
      match directories rest with
      | .error fault => .error fault
      | .ok later => .ok (directory :: later)

/-- What a request asks of a traversal. Suffixes are tried up to the first without a text. -/
def Request.options (request : Request) : Options where
  companionSuffixes :=
    if request.companionSuffixes = [] then [".cpp"] else (request.companionSuffixes.takeWhile (·.isSome)).filterMap id
  debug := request.verbose

/-- What is told until a header asks for a companion whose suffix has no text, if there are such a suffix and such
a header. The suffixes in front of it are tried first. -/
def toldUntilLackingSuffix (files : FileSystem) (request : Request) (directories : List IncludeDirectory) :
    Option (List Log.Record) :=
  match HeaderIndex.build files request.options.headerSuffixes directories with
  | (_, .error _) => none
  | (told, .ok index) =>
    if request.companionSuffixes.contains none then
      let around : Surroundings := ⟨files, index, request.options⟩
      let start := (Traversal.initial index).add .source (Path.absolute files.currentPath request.root) none
      (Traversal.firstHeader? around start).map fun (header, state) =>
        told ++ Graph.indexRecords request.options index
          ++ (Traversal.addCompanions around header state request.options.companionSuffixes).log
    else none

/-- Switches the session to the verbosity and the colors of a request. -/
def prepare (outcome : Outcome) (request : Request) (invocation : Invocation) : Outcome × Bool :=
  let outcome :=
    if request.verbose then
      ({ outcome with session := { outcome.session with isVerbose := true } } : Outcome).display
        [⟨.debug, .commandLine, "Verbose logging enabled"⟩]
    else outcome
  let (told, colored) := Palette.isWanted request.noColor invocation.noColor invocation.terminal
  let outcome := outcome.display told
  (if colored then outcome else { outcome with session := { outcome.session with palette := .plain } }, colored)

/-- Prints the report of a graph. In the form for people the problems go to the error stream. -/
def report (outcome : Outcome) (request : Request) (colored : Bool) (graph : Graph) : Outcome :=
  let palette := if colored then outcome.session.palette else .plain
  match request.form with
  | .json => outcome.print (Report.document graph ++ "\n")
  | .text =>
    let outcome := outcome.print (Report.summary palette graph ++ "\n")
    let warnings := Report.warnings palette graph
    if warnings = "" then outcome else outcome.complain (warnings ++ "\n")

def finish (outcome : Outcome) (graph : Graph) : Outcome :=
  match graph.missing.length with
  | 0 => outcome.leave 0
  | missing =>
    (outcome.complain (outcome.session.palette.warningLine
      (toString missing ++ " include target(s) could not be found") true)).leave 0

def writeExport (outcome : Outcome) (request : Request) (graph : Graph) : Outcome :=
  match request.exportFile.filter (· ≠ "") with
  | none => finish outcome graph
  | some path =>
    match Network.exportGraph outcome.session.files graph path outcome.session.stamp with
    | .error (.unsupported extension) => outcome.fail 1 (Network.ExportError.unsupported extension).message
    | .error (.unwritable path fault) => outcome.failToWrite path fault
    | .ok exported =>
      let outcome := (outcome.wrote exported.files path exported.text).display exported.told
      finish (outcome.complain (outcome.session.palette.successLine ("Exported include graph to " ++ path))) graph

/-- Writes the links of a graph to the file of a request, if it names one, and then exports the graph. -/
def writeFiles (outcome : Outcome) (request : Request) (graph : Graph) : Outcome :=
  match request.graphviz.filter (· ≠ "") with
  | none => writeExport outcome request graph
  | some path =>
    let text := Report.graphviz graph ++ "\n"
    match outcome.session.files.write path text with
    | .error fault => outcome.failToWrite path fault
    | .ok files =>
      let outcome := outcome.wrote files path text
      writeExport (outcome.complain (outcome.session.palette.successLine ("Exported Graphviz file to " ++ path)))
        request graph

def failToBuild (outcome : Outcome) (error : BuildError) : Outcome :=
  match error with
  | .index _ => outcome.fail 1 error.message
  | .traversal (.unreadable _ _) => outcome.fail 2 error.message
  | .traversal _ => outcome.crash error.message

def answer (session : Session) (request : Request) (invocation : Invocation) : Outcome :=
  let (outcome, colored) := prepare (.start session) request invocation
  match directories request.includes with
  | .error (.noDirectory fault) => outcome.fail 1 fault.message
  | .error .noText => outcome.crash "'list' object has no attribute 'rpartition'"
  | .ok directories =>
    match toldUntilLackingSuffix session.files request directories with
    | some told => (outcome.display told).crash "can only concatenate str (not \"list\") to str"
    | none =>
      match Graph.build session.files request.root directories request.options with
      | (told, .error error) => failToBuild (outcome.display told) error
      | (told, .ok graph) => writeFiles (report (outcome.display told) request colored graph) request graph

def run (session : Session) (invocation : Invocation) : Outcome :=
  match Request.ofArguments invocation.arguments with
  | .ok request => answer session request invocation
  | .error .help => (Outcome.start session).print help
  | .error .version => (Outcome.start session).print (program ++ " " ++ version ++ "\n")
  | .error (.misuse misuse) =>
    ((Outcome.start session).complain (usage ++ program ++ ": error: " ++ misuse.message ++ "\n")).leave 2

end IncludeGraph.CommandLine
