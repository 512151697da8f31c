import IncludeGraph.Log

/-! Colors of terminal output, by the codes that switch them on. -/

namespace IncludeGraph

/-- The codes in use. Empty codes color nothing. -/
structure Palette where
  red : String := ""
  green : String := ""
  yellow : String := ""
  cyan : String := ""
  white : String := ""
  reset : String := ""
  bright : String := ""
  dim : String := ""
  deriving DecidableEq, Repr

namespace Palette

def standard : Palette where
  red := "\x1b[31m"
  green := "\x1b[32m"
  yellow := "\x1b[33m"
  cyan := "\x1b[36m"
  white := "\x1b[37m"
  reset := "\x1b[0m"
  bright := "\x1b[1m"
  dim := "\x1b[2m"

def plain : Palette := {}

def codes (palette : Palette) : List (String × String) :=
  [("RED", palette.red), ("GREEN", palette.green), ("YELLOW", palette.yellow), ("CYAN", palette.cyan),
    ("WHITE", palette.white), ("RESET", palette.reset), ("BRIGHT", palette.bright), ("DIM", palette.dim)]

/-- A text between codes and the reset code, or the text itself when there are no codes. -/
def paint (palette : Palette) (text color style : String) : String :=
  if color = "" ∧ style = "" then text else style ++ color ++ text ++ palette.reset

def successLine (palette : Palette) (text : String) : String := palette.paint text palette.green "" ++ "\n"

def errorLine (palette : Palette) (text : String) (headed : Bool) : String :=
  palette.paint (if headed then "Error: " ++ text else text) palette.red "" ++ "\n"

def warningLine (palette : Palette) (text : String) (headed : Bool) : String :=
  palette.paint (if headed then "Warning: " ++ text else text) palette.yellow "" ++ "\n"

/-- Should output be colored? Only on a terminal, unless an option or a non-empty variable of the environment
says otherwise. -/
def isWanted (refused : Bool) (noColor : Option String) (terminal : Bool) : List Log.Record × Bool :=
  if refused then ([], false)
  else if noColor.any (· ≠ "") then ([⟨.debug, .terminal, "NO_COLOR is set, disabling colors"⟩], false)
  else ([], terminal)

end Palette

end IncludeGraph
