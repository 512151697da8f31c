/-! The options of the command and how they are spelled. -/

namespace IncludeGraph.CommandLine

inductive Switch where
  | help
  | includeDirectory
  | companionSuffix
  | format
  | graphviz
  | exportFile
  | noColor
  | verbose
  | version
  deriving DecidableEq, Repr

namespace Switch

/-- Every spelling with its option, in the order in which they are listed. -/
def spellings : List (String × Switch) :=
  [("-h", help), ("--help", help), ("-I", includeDirectory), ("--include", includeDirectory),
    ("--companion-suffix", companionSuffix), ("--format", format), ("--graphviz", graphviz),
    ("--export", exportFile), ("--no-color", noColor), ("--verbose", verbose), ("-v", verbose),
    ("--version", version)]

def takesValue : Switch → Bool
  | includeDirectory | companionSuffix | format | graphviz | exportFile => true
  | help | noColor | verbose | version => false

def displayName (switch : Switch) : String :=
  "/".intercalate ((spellings.filter (·.2 = switch)).map (·.1))

end Switch

end IncludeGraph.CommandLine
