import IncludeGraph.Graph
import IncludeGraph.Json.Print

/-! The report for programs: one JSON object. -/

namespace IncludeGraph.Report

def diagnosticValue (diagnostic : Diagnostic) : Json :=
  .object [("kind", .string diagnostic.kindName), ("file", .string diagnostic.file),
    ("line", diagnostic.line?.elim .null .number), ("message", .string diagnostic.message)]

def value (graph : Graph) : Json :=
  .object [("root", .string graph.root), ("include_paths", .strings graph.includePaths),
    ("headers", .strings graph.headers), ("sources", .strings graph.sources),
    ("system_includes", .strings graph.systemIncludes), ("missing", .strings graph.missing),
    ("diagnostics", .array (graph.diagnostics.map diagnosticValue))]

def document (graph : Graph) : String := (value graph).print

end IncludeGraph.Report
