import IncludeGraph.Proofs.JsonReading
import IncludeGraph.Proofs.Closure
import IncludeGraph.Report.Document
import IncludeGraph.Report.Summary

/-! What a reader of a report learns of the graph. The JSON report gives every list back, whatever text paths, include
names and broken lines hold. The summary gives the root and its three lists back from headings and indentation alone, as
long as no path takes more than a line. -/

namespace IncludeGraph.Proofs.Reports
open Report JsonReading Builds Closure

structure Problem where
  kind : String
  file : String
  line? : Option Nat
  message : String
  deriving DecidableEq

structure Contents where
  root : String
  includePaths : List String
  headers : List String
  sources : List String
  systemIncludes : List String
  missing : List String
  problems : List Problem
  deriving DecidableEq

def problemOf (diagnostic : Diagnostic) : Problem :=
  ⟨diagnostic.kindName, diagnostic.file, diagnostic.line?, diagnostic.message⟩

def contentsOf (graph : Graph) : Contents :=
  ⟨graph.root, graph.includePaths, graph.headers, graph.sources, graph.systemIncludes, graph.missing,
    graph.diagnostics.map problemOf⟩

def text? : Json → Option String
  | .string text => some text
  | _ => none

def line? : Json → Option (Option Nat)
  | .null => some none
  | .number line => some (some line)
  | _ => none

def items? {α : Type} (item? : Json → Option α) : Json → Option (List α)
  | .array items => items.mapM item?
  | _ => none

def problem? (report : Json) : Option Problem := do
  return ⟨← (report.member? "kind").bind text?, ← (report.member? "file").bind text?,
    ← (report.member? "line").bind line?, ← (report.member? "message").bind text?⟩

def contents? (report : Json) : Option Contents := do
  let texts? (name : String) := (report.member? name).bind (items? text?)
  return ⟨← (report.member? "root").bind text?, ← texts? "include_paths", ← texts? "headers", ← texts? "sources",
    ← texts? "system_includes", ← texts? "missing", ← (report.member? "diagnostics").bind (items? problem?)⟩

structure Listing where
  root : String
  includePaths : List String
  headers : List String
  sources : List String
  deriving DecidableEq

def listingOf (graph : Graph) : Listing := ⟨graph.root, graph.includePaths, graph.headers, graph.sources⟩

/-- No path of the listing takes more than a line. A path with a line feed in it could pass for several, or for a
heading. -/
structure Lined (listing : Listing) : Prop where
  root : '\n' ∉ listing.root.toList
  includePaths : ∀ path ∈ listing.includePaths, '\n' ∉ path.toList
  headers : ∀ path ∈ listing.headers, '\n' ∉ path.toList
  sources : ∀ path ∈ listing.sources, '\n' ∉ path.toList

def title? (line : List Char) : Option String := do
  let rest ← line.dropPrefix? "Include Graph of <".toList
  let root ← rest.dropSuffix? ">:".toList
  return String.ofList root

def isIndented (line : List Char) : Bool := line.head? = some '\t'

/-- The indented lines behind a heading, without their tabs, and the lines after them. -/
def block? (heading : String) : List (List Char) → Option (List String × List (List Char))
  | [] => none
  | line :: rest =>
    if line = heading.toList then
      some ((rest.takeWhile isIndented).map fun line => String.ofList line.tail, rest.dropWhile isIndented)
    else none

def listing? (text : String) : Option Listing :=
  match text.toList.splitOn '\n' with
  | [] => none
  | line :: rest => do
    let root ← title? line
    let (includePaths, rest) ← block? "Include Paths:" rest
    let (headers, rest) ← block? "Headers:" rest
    let (sources, rest) ← block? "Inferred Sources:" rest
    if rest = [] then return ⟨root, includePaths, headers, sources⟩ else none

private theorem items?_map {α β : Type} {write : β → Json} {read? : Json → Option α} (mean : β → α)
    (reads : ∀ item, read? (write item) = some (mean item)) (items : List β) :
    items? read? (.array (items.map write)) = some (items.map mean) := by
  rw [items?]
  induction items with
  | nil => rfl
  | cons item rest ih => simp [reads, ih]

theorem items?_map_self {α : Type} {write : α → Json} {read? : Json → Option α}
    (reads : ∀ item, read? (write item) = some item) (items : List α) :
    items? read? (.array (items.map write)) = some items := by
  have read := items?_map id reads items
  rwa [List.map_id] at read

private theorem texts?_strings (texts : List String) : items? text? (.strings texts) = some texts :=
  items?_map_self (fun _ => rfl : ∀ text, text? (.string text) = some text) texts

private theorem problem?_diagnosticValue (diagnostic : Diagnostic) :
    problem? (diagnosticValue diagnostic) = some (problemOf diagnostic) := by
  cases diagnostic with
  | missing path => rfl
  | malformed path line text => rfl

theorem contents?_value (graph : Graph) : contents? (value graph) = some (contentsOf graph) := by
  have problems := items?_map problemOf problem?_diagnosticValue graph.diagnostics
  simp [contents?, value, Json.member?, List.lookup_cons, texts?_strings, problems, contentsOf, text?]

/-- The JSON report of a graph is ASCII, and whoever decodes it has every list of the graph. -/
theorem document_reads (graph : Graph) :
    Ascii (document graph).toList ∧ Json.read? (document graph) = some (value graph) ∧
    (Json.read? (document graph)).bind contents? = some (contentsOf graph) := by
  have read : Json.read? (document graph) = some (value graph) := read?_print _
  refine ⟨?_, read, ?_⟩
  · rw [document, Json.print, String.toList_ofList]
    exact ascii_printAt _ 0
  · rw [read, Option.bind_some, contents?_value]

section
variable {heading path : String} {paths : List String} {rest : List (List Char)} {listing : Listing} {graph : Graph}

private theorem paint_plain (text : String) :
    Palette.plain.paint text Palette.plain.white Palette.plain.bright = text := by
  simp [Palette.paint, Palette.plain]

def blockLines (heading : String) (paths : List String) : List (List Char) :=
  heading.toList :: paths.map ('\t' :: ·.toList)

private theorem toList_block (heading : String) (paths : List String) :
    (block .plain heading paths).map String.toList = blockLines heading paths := by
  simp [block, blockLines, Palette.paint, Palette.plain, Function.comp_def]

/-- A block ends at the next line that is not indented, whatever its paths look like. -/
private theorem block?_blockLines (heading : String) (paths : List String)
    (ended : ∀ line ∈ rest.head?, isIndented line = false) :
    block? heading (blockLines heading paths ++ rest) = some (paths, rest) := by
  have indented : ∀ line ∈ paths.map ('\t' :: ·.toList), isIndented line = true := by
    intro line member
    obtain ⟨path, -, rfl⟩ := List.mem_map.mp member
    rfl
  have span := span_append indented ended
  rw [blockLines, List.cons_append, block?, if_pos rfl, span.1, span.2, List.map_map]
  simp [Function.comp_def]

def titleLine (root : String) : List Char := "Include Graph of <".toList ++ (root.toList ++ ">:".toList)

private theorem title?_titleLine (root : String) : title? (titleLine root) = some root := by
  have front : (titleLine root).dropPrefix? "Include Graph of <".toList = some (root.toList ++ ">:".toList) :=
    List.dropPrefix?_append_of_beq _ (beq_self_eq_true _)
  have back : (root.toList ++ ">:".toList).dropSuffix? ">:".toList = some root.toList :=
    List.dropSuffix?_eq_some_iff.mpr ⟨_, rfl, beq_self_eq_true _⟩
  rw [title?, front, Option.bind_eq_bind, Option.bind_some, back, Option.bind_some, String.ofList_toList, Option.pure_def]

def summaryLines (listing : Listing) : List (List Char) :=
  titleLine listing.root :: (blockLines "Include Paths:" listing.includePaths ++
    (blockLines "Headers:" listing.headers ++ blockLines "Inferred Sources:" listing.sources))

theorem toList_summary (graph : Graph) :
    (summary .plain graph).toList = ['\n'].intercalate (summaryLines (listingOf graph)) := by
  have title : (Palette.plain.paint ("Include Graph of <" ++ graph.root ++ ">:") Palette.plain.white
      Palette.plain.bright).toList = titleLine graph.root := by
    rw [paint_plain]
    unfold titleLine
    simp only [String.toList_append, List.append_assoc]
  have feed : "\n".toList = ['\n'] := rfl
  rw [summary, String.toList_intercalate, feed, List.map_append, List.map_append, List.map_cons, title, toList_block,
    toList_block, toList_block]
  simp only [summaryLines, listingOf, List.append_assoc, List.cons_append]

private theorem unbroken_blockLines (plain : '\n' ∉ heading.toList) (unbroken : ∀ path ∈ paths, '\n' ∉ path.toList) :
    ∀ line ∈ blockLines heading paths, '\n' ∉ line := by
  intro line member
  rcases List.mem_cons.mp member with rfl | inside
  · exact plain
  · obtain ⟨path, listed, rfl⟩ := List.mem_map.mp inside
    simpa using unbroken path listed

private theorem unbroken_summaryLines (lined : Lined listing) : ∀ line ∈ summaryLines listing, '\n' ∉ line := by
  intro line member
  rcases List.mem_cons.mp member with rfl | inside
  · unfold titleLine
    simp only [List.mem_append, not_or]
    exact ⟨by decide, lined.root, by decide⟩
  · rcases List.mem_append.mp inside with first | later
    · exact unbroken_blockLines (by decide) lined.includePaths line first
    · rcases List.mem_append.mp later with second | third
      · exact unbroken_blockLines (by decide) lined.headers line second
      · exact unbroken_blockLines (by decide) lined.sources line third

/-- The lines of a summary tell the title from the blocks and the blocks from each other, since no heading is indented. -/
theorem listing?_summary (lined : Lined (listingOf graph)) :
    listing? (summary .plain graph) = some (listingOf graph) := by
  have split : (summary .plain graph).toList.splitOn '\n' = summaryLines (listingOf graph) := by
    rw [toList_summary]
    exact List.splitOn_intercalate _ (unbroken_summaryLines lined) (List.cons_ne_nil _ _)
  have heads : ∀ heading paths rest, isIndented heading.toList = false →
      ∀ line ∈ (blockLines heading paths ++ rest).head?, isIndented line = false := by
    rintro heading paths rest plain line ⟨rfl⟩
    exact plain
  have includePaths := block?_blockLines "Include Paths:" graph.includePaths
    (heads "Headers:" graph.headers (blockLines "Inferred Sources:" graph.sources) (by decide))
  have headers := block?_blockLines "Headers:" graph.headers
    (heads "Inferred Sources:" graph.sources [] (by decide))
  have sources : block? "Inferred Sources:" (blockLines "Inferred Sources:" graph.sources ++ []) = _ :=
    block?_blockLines "Inferred Sources:" graph.sources (by simp)
  rw [List.append_nil] at headers sources
  simp only [listing?, split, summaryLines, listingOf, title?_titleLine, includePaths, headers, sources,
    Option.bind_eq_bind, Option.bind_some, if_true, Option.pure_def]

/-- The summary gives the root and the three lists back, so that graphs with the same summary agree in them. -/
theorem summary_tells {other : Graph} (lined : Lined (listingOf graph)) (otherLined : Lined (listingOf other)) :
    listing? (summary .plain graph) = some (listingOf graph) ∧
    (summary .plain graph = summary .plain other → graph.root = other.root ∧ graph.includePaths = other.includePaths ∧
      graph.headers = other.headers ∧ graph.sources = other.sources) := by
  have read := listing?_summary lined
  refine ⟨read, ?_⟩
  intro same
  rw [same, listing?_summary otherLined] at read
  obtain ⟨root, includePaths, headers, sources⟩ := Listing.mk.inj (Option.some.inj read)
  exact ⟨root.symm, includePaths.symm, headers.symm, sources.symm⟩

end

/-- A file that includes one with the name of a heading. Without it, as in `headless`, the graph is another one, but
the summary is the same. -/
def headed : FileSystem :=
  ⟨["w"], ⟨[(["w"], .directory true), (["w", "m.cpp"], textEntry "#include \"Headers:\"\n"),
    (["w", "Headers:"], textEntry "")]⟩⟩

def headedGraph : Graph where
  root := "/w/m.cpp"
  nodes := ⟨[
    ("/w/m.cpp", ⟨.source, .file "/w/m.cpp" true, .resolved, none, some [.file "/w/Headers:"]⟩),
    ("/w/Headers:", ⟨.header, .file "/w/Headers:" true, .resolved, some "/w/m.cpp", some []⟩)]⟩
  systems := {}
  usedPaths := ["/w"]
  diagnostics := []

def headless : FileSystem := ⟨["w"], ⟨headed.entries.entries.take 2⟩⟩

def headlessGraph : Graph where
  root := "/w/m.cpp"
  nodes := ⟨[
    ("/w/m.cpp", ⟨.source, .file "/w/m.cpp" true, .resolved, none, some [.file "/w/Headers:"]⟩),
    ("/w/Headers:", ⟨.header, .file "/w/Headers:" false, .resolved, some "/w/m.cpp", none⟩)]⟩
  systems := {}
  usedPaths := ["/w"]
  diagnostics := [.missing "/w/Headers:"]

private theorem headed_built : (Graph.build headed "m.cpp" [] {}).2 = .ok headedGraph := by
  have indexed : (HeaderIndex.build headed [".h"] []).2 = .ok {} := rfl
  exact build_of_endWithin 3 indexed (by decide +kernel)

private theorem headless_built : (Graph.build headless "m.cpp" [] {}).2 = .ok headlessGraph := by
  have indexed : (HeaderIndex.build headless [".h"] []).2 = .ok {} := rfl
  exact build_of_endWithin 3 indexed (by decide +kernel)

theorem summary_tells_headed : (Graph.build headed "m.cpp" [] {}).2 = .ok headedGraph ∧
    (Graph.build headless "m.cpp" [] {}).2 = .ok headlessGraph ∧
    Lined (listingOf headedGraph) ∧ Lined (listingOf headlessGraph) ∧
    summary .plain headedGraph = summary .plain headlessGraph ∧
    listing? (summary .plain headedGraph) = some (listingOf headedGraph) ∧
    headedGraph.root = headlessGraph.root ∧ headedGraph.includePaths = headlessGraph.includePaths ∧
    headedGraph.headers = headlessGraph.headers ∧ headedGraph.sources = headlessGraph.sources := by
  have lined : Lined (listingOf headedGraph) :=
    ⟨by decide +kernel, by decide +kernel, by decide +kernel, by decide +kernel⟩
  have otherLined : Lined (listingOf headlessGraph) :=
    ⟨by decide +kernel, by decide +kernel, by decide +kernel, by decide +kernel⟩
  have same : summary .plain headedGraph = summary .plain headlessGraph := by decide +kernel
  obtain ⟨read, agree⟩ := summary_tells lined otherLined
  exact ⟨headed_built, headless_built, lined, otherLined, same, read, agree same⟩

end IncludeGraph.Proofs.Reports
