import IncludeGraph.Graph

/-! The links of a graph as a Graphviz digraph. -/

namespace IncludeGraph.Report

def graphvizEdge (edge : String × String) : String := "\t\"" ++ edge.1 ++ "\" -> \"" ++ edge.2 ++ "\";"

def graphviz (graph : Graph) : String :=
  "\n".intercalate ("digraph A \x7b" :: graph.edges.map graphvizEdge ++ ["\x7d"])

end IncludeGraph.Report
