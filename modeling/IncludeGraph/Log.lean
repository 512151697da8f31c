/-! Log records: what the library tells about its work, apart from its results. -/

namespace IncludeGraph.Log

inductive Level where
  | debug
  | info
  | warning
  deriving DecidableEq, Repr

def Level.name : Level → String
  | debug => "DEBUG"
  | info => "INFO"
  | warning => "WARNING"

/-- The part of the library that speaks. -/
inductive Component where
  | scanner
  | index
  | graph
  | exporter
  | terminal
  | commandLine
  deriving DecidableEq, Repr

structure Record where
  level : Level
  component : Component
  message : String
  deriving DecidableEq, Repr

end IncludeGraph.Log
