import IncludeGraph.Graph
import IncludeGraph.Palette

/-! The report for people: a title, the lists of the graph with a heading each, and the problems. -/

namespace IncludeGraph.Report

def block (palette : Palette) (heading : String) (paths : List String) : List String :=
  palette.paint heading palette.cyan palette.bright :: paths.map ("\t" ++ ·)

def summary (palette : Palette) (graph : Graph) : String :=
  "\n".intercalate
    (palette.paint ("Include Graph of <" ++ graph.root ++ ">:") palette.white palette.bright
      :: block palette "Include Paths:" graph.includePaths
      ++ block palette "Headers:" graph.headers
      ++ block palette "Inferred Sources:" graph.sources)

/-- The problems of a graph in the order in which they were met, or nothing when there are none. -/
def warnings (palette : Palette) (graph : Graph) : String :=
  if graph.diagnostics = [] then ""
  else
    "\n".intercalate
      (palette.paint ("Warnings (" ++ toString graph.diagnostics.length ++ "):") palette.yellow palette.bright
        :: graph.diagnostics.map fun diagnostic => "\t" ++ diagnostic.text)

end IncludeGraph.Report
