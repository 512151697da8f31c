import IncludeGraph.CommandLine.Token
import IncludeGraph.Text.Quoted

/-! What the arguments ask for. -/

namespace IncludeGraph.CommandLine

inductive ReportForm where
  | text
  | json
  deriving DecidableEq, Repr

def ReportForm.names : List (String × ReportForm) := [("text", .text), ("json", .json)]

/-- A request for a report. Where a separator was attached to an option as its value there is no text. -/
structure Request where
  root : String
  includes : List (Option String) := []
  companionSuffixes : List (Option String) := []
  form : ReportForm := .text
  graphviz : Option String := none
  exportFile : Option String := none
  noColor : Bool := false
  verbose : Bool := false
  deriving DecidableEq, Repr

/-- Why arguments are refused. -/
inductive Misuse where
  | ambiguous (ambiguity : Ambiguity)
  | noValue (switch : Switch)
  | unwantedValue (switch : Switch) (value : String)
  | unknownForm (value : String)
  | noRoot
  | unrecognized (arguments : List String)
  deriving DecidableEq, Repr

def Misuse.message : Misuse → String
  | ambiguous ambiguity =>
    "ambiguous option: " ++ ambiguity.argument ++ " could match " ++ ", ".intercalate ambiguity.candidates
  | noValue switch => "argument " ++ switch.displayName ++ ": expected one argument"
  | unwantedValue switch value =>
    "argument " ++ switch.displayName ++ ": ignored explicit argument " ++ Text.quoted value
  | unknownForm value =>
    "argument " ++ Switch.format.displayName ++ ": invalid choice: " ++ Text.quoted value ++ " (choose from "
      ++ ", ".intercalate (ReportForm.names.map fun form => Text.quoted form.1) ++ ")"
  | noRoot => "the following arguments are required: ROOT_FILE"
  | unrecognized arguments => "unrecognized arguments: " ++ " ".intercalate arguments

/-- How reading arguments ends without a request. -/
inductive Ending where
  | help
  | version
  | misuse (misuse : Misuse)
  deriving DecidableEq, Repr

/-- The arguments read so far: the root if it was met, what else is asked for, and what belongs nowhere. -/
structure Progress where
  rootMet : Bool := false
  request : Request := { root := "" }
  extras : List String := []

def Progress.flag (progress : Progress) : Switch → Except Ending Progress
  | .help => .error .help
  | .version => .error .version
  | .noColor => .ok { progress with request := { progress.request with noColor := true } }
  | .verbose => .ok { progress with request := { progress.request with verbose := true } }
  | switch => .error (.misuse (.noValue switch))

def Progress.assign (progress : Progress) (value : Option String) : Switch → Except Ending Progress
  | .includeDirectory =>
    .ok { progress with request := { progress.request with includes := progress.request.includes ++ [value] } }
  | .companionSuffix =>
    .ok { progress with
      request := { progress.request with companionSuffixes := progress.request.companionSuffixes ++ [value] } }
  | .format =>
    match value with
    | none => .ok { progress with request := { progress.request with form := .text } }
    | some name =>
      match ReportForm.names.lookup name with
      | some form => .ok { progress with request := { progress.request with form } }
      | none => .error (.misuse (.unknownForm name))
  | .graphviz => .ok { progress with request := { progress.request with graphviz := value } }
  | .exportFile => .ok { progress with request := { progress.request with exportFile := value } }
  | switch => .error (.misuse (.unwantedValue switch (value.getD "--")))

/-- What the letters of one argument come to: options without values, and at the end an option with its value or
an option whose value is the next argument. -/
structure Cluster where
  flags : List Switch := []
  assigned : Option (Switch × Option String) := none
  wanting : Option Switch := none

def Cluster.bare (switch : Switch) : Cluster :=
  if switch.takesValue then { wanting := some switch } else { flags := [switch] }

/-- Puts an option without a value in front. -/
def Cluster.cons (switch : Switch) (cluster : Cluster) : Cluster := { cluster with flags := switch :: cluster.flags }

/-- The value that an attached text gives. A separator is taken away even here. -/
def attachedValue (text : List Char) : Option String := if text = ['-', '-'] then none else some (String.ofList text)

/-- Reads the text attached to an option. Behind a letter that takes no value, each character is a further letter,
even if an equals sign stands between. -/
def Cluster.ofAttached (switch : Switch) (isLetter : Bool) (text : List Char) : Except Misuse Cluster :=
  if switch.takesValue then .ok { assigned := some (switch, attachedValue text) }
  else
    match isLetter, text with
    | true, letter :: rest =>
      match Switch.spellings.lookup (String.ofList ['-', letter]), rest with
      | none, _ => .error (.unwantedValue switch (String.ofList text))
      | some next, [] => .ok (.cons switch (.bare next))
      | some next, more :: rest => (Cluster.ofAttached next true (more :: rest)).map (.cons switch)
    | _, _ => .error (.unwantedValue switch (String.ofList text))

def Cluster.ofUsage (usage : Usage) : Except Misuse Cluster :=
  match usage.attached with
  | none => .ok (.bare usage.switch)
  | some text => Cluster.ofAttached usage.switch usage.isLetter text

def Progress.flags (progress : Progress) : List Switch → Except Ending Progress
  | [] => .ok progress
  | switch :: rest =>
    match progress.flag switch with
    | .error ending => .error ending
    | .ok progress => progress.flags rest

/-- Applies what one argument came to, with the value that it takes from the next argument. -/
def Progress.apply (progress : Progress) (cluster : Cluster) (next : Option String) : Except Ending Progress :=
  match progress.flags cluster.flags with
  | .error ending => .error ending
  | .ok progress =>
    match cluster.assigned.or (cluster.wanting.bind fun switch => next.map (switch, some ·)) with
    | some (switch, value) => progress.assign value switch
    | none => .ok progress

/-- Takes the first plain argument as the root and the others as belonging nowhere. -/
def Progress.plain (progress : Progress) (text : String) : Progress :=
  if progress.rootMet then { progress with extras := progress.extras ++ [text] }
  else { progress with rootMet := true, request := { progress.request with root := text } }

/-- Reads the arguments. A separator belongs to the root if it stands beside it. -/
def Progress.read (progress : Progress) : List Token → Except Ending Progress
  | [] => .ok progress
  | .plain text :: .separator :: rest =>
    if progress.rootMet then
      Progress.read (({ progress with extras := progress.extras ++ [text, "--"] } : Progress)) rest
    else Progress.read (progress.plain text) rest
  | .plain text :: rest => Progress.read (progress.plain text) rest
  | .separator :: .plain text :: rest =>
    if progress.rootMet then
      Progress.read (({ progress with extras := progress.extras ++ ["--", text] } : Progress)) rest
    else Progress.read (progress.plain text) rest
  | .separator :: rest => Progress.read (({ progress with extras := progress.extras ++ ["--"] } : Progress)) rest
  | .unknown text :: rest => Progress.read (({ progress with extras := progress.extras ++ [text] } : Progress)) rest
  | .usage usage :: rest =>
    match Cluster.ofUsage usage with
    | .error misuse => .error (.misuse misuse)
    | .ok cluster =>
      match cluster.wanting, rest with
      | some _, .plain value :: rest =>
        match progress.apply cluster (some value) with
        | .error ending => .error ending
        | .ok progress => Progress.read progress rest
      | some switch, _ => .error (.misuse (.noValue switch))
      | none, rest =>
        match progress.apply cluster none with
        | .error ending => .error ending
        | .ok progress => Progress.read progress rest

/-- The request that arguments make. Ambiguous options are refused before anything else is looked at. -/
def Request.ofArguments (arguments : List String) : Except Ending Request :=
  match tokens arguments with
  | .error ambiguity => .error (.misuse (.ambiguous ambiguity))
  | .ok tokens =>
    match Progress.read {} tokens with
    | .error ending => .error ending
    | .ok progress =>
      if !progress.rootMet then .error (.misuse .noRoot)
      else if progress.extras ≠ [] then .error (.misuse (.unrecognized progress.extras))
      else .ok progress.request

end IncludeGraph.CommandLine
