import IncludeGraph.Text.Blank
import IncludeGraph.Text.Lines
import IncludeGraph.Text.Utf8
import IncludeGraph.Text.Quoted
import IncludeGraph.Text.LowerCase
import IncludeGraph.Text.Sorted
import IncludeGraph.Table
import IncludeGraph.Path
import IncludeGraph.FileSystem.Walk
import IncludeGraph.Directive.Scan
import IncludeGraph.HeaderIndex
import IncludeGraph.Node
import IncludeGraph.Graph.Build
import IncludeGraph.Json.Print
import IncludeGraph.Json.Read
import IncludeGraph.Report.Summary
import IncludeGraph.Report.Document
import IncludeGraph.Report.Graphviz
import IncludeGraph.Network.Export
import IncludeGraph.Main
import IncludeGraph.Proofs.Paths
import IncludeGraph.Proofs.NormalPaths
import IncludeGraph.Proofs.Locations
import IncludeGraph.Proofs.CollapsedPaths
import IncludeGraph.Proofs.Walks
import IncludeGraph.Proofs.Indexing
import IncludeGraph.Proofs.Growth
import IncludeGraph.Proofs.Resolution
import IncludeGraph.Proofs.Turns
import IncludeGraph.Proofs.WorklistInvariant
import IncludeGraph.Proofs.Builds
import IncludeGraph.Proofs.Closure
import IncludeGraph.Proofs.LeastClosure
import IncludeGraph.Proofs.Precision
import IncludeGraph.Proofs.Termination
import IncludeGraph.Proofs.Traces
import IncludeGraph.Proofs.QueueDiscipline
import IncludeGraph.Proofs.History
import IncludeGraph.Proofs.Precedence
import IncludeGraph.Proofs.Introductions
import IncludeGraph.Proofs.Openings
import IncludeGraph.Proofs.Diagnostics
import IncludeGraph.Proofs.Companions
import IncludeGraph.Proofs.DeclaredErrors
import IncludeGraph.Proofs.FatalFiles
import IncludeGraph.Proofs.ResultLists
import IncludeGraph.Proofs.NodeKeys
import IncludeGraph.Proofs.NetworkNames
import IncludeGraph.Proofs.JsonReading
import IncludeGraph.Proofs.Reports
import IncludeGraph.Proofs.DotReading
import IncludeGraph.Proofs.NetworkLinks
import IncludeGraph.Proofs.Encoding
import IncludeGraph.Proofs.Scanning
import IncludeGraph.Proofs.Includable
import IncludeGraph.Proofs.Findings
import IncludeGraph.Proofs.DirectiveLines
import IncludeGraph.Proofs.LineEndings
import IncludeGraph.Proofs.LineLocality
import IncludeGraph.Proofs.LineNumbers
import IncludeGraph.Proofs.ParallelRuns
import IncludeGraph.Proofs.DirectoryOrder
import IncludeGraph.Proofs.Declarations
import IncludeGraph.Proofs.Outcomes
import IncludeGraph.Proofs.Writes
import IncludeGraph.Proofs.InvalidRequests
