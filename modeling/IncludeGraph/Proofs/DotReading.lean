import IncludeGraph.Proofs.Closure
import IncludeGraph.Report.Graphviz

/-! How the dump of the links reads in the DOT language. There a quoted name ends at the first quote without a backslash
in front, and a quote with a backslash in front stands for a quote. The dump writes names as they are, so that it reads as
the links of the graph only if no name holds a quote or ends in a backslash. -/

namespace IncludeGraph.Proofs.DotReading
open Report Builds Closure

def isBlank (c : Char) : Bool := c = ' ' || c = '\t' || c = '\n' || c = '\r'

def skipBlank (text : List Char) : List Char := text.dropWhile isBlank

def isWordChar (c : Char) : Bool := c.isAlphanum || c = '_' || 0x80 ≤ c.toNat

def readWord (text : List Char) : Option (String × List Char) :=
  if text.takeWhile isWordChar = [] then none
  else some (String.ofList (text.takeWhile isWordChar), text.dropWhile isWordChar)

/-- The rest of a quoted name. A quote with a backslash in front stands for a quote, and the first other one ends the
name; any other backslash stands for itself. -/
def readQuoted : List Char → Option (List Char × List Char)
  | [] => none
  | '"' :: rest => some ([], rest)
  | '\\' :: '"' :: rest => (readQuoted rest).map fun (name, after) => ('"' :: name, after)
  | c :: rest => (readQuoted rest).map fun (name, after) => (c :: name, after)

def readName : List Char → Option (String × List Char)
  | '"' :: rest => (readQuoted rest).map fun (name, after) => (String.ofList name, after)
  | text => readWord text

/-- Names with arrows between them. One name alone is a vertex. -/
def readChain : Nat → List Char → Option (List String × List Char)
  | 0, _ => none
  | depth + 1, text => do
    let (name, rest) ← readName (skipBlank text)
    match skipBlank rest with
    | '-' :: '>' :: rest =>
      let (names, after) ← readChain depth rest
      return (name :: names, after)
    | rest => return ([name], rest)

def skipSemicolon : List Char → List Char
  | ';' :: rest => rest
  | text => text

def readStatements : Nat → List Char → Option (List (List String))
  | 0, _ => none
  | depth + 1, text =>
    match skipBlank text with
    | '\x7d' :: rest => if skipBlank rest = [] then some [] else none
    | text => do
      let (names, rest) ← readChain depth text
      let statements ← readStatements depth (skipSemicolon (skipBlank rest))
      return names :: statements

/-- The statements of a digraph without attributes. No more follow each other than the text has characters. -/
def readDigraph? (text : String) : Option (List (List String)) := do
  let (keyword, rest) ← readWord text.toList
  let (_, rest) ← readName (skipBlank rest)
  match keyword, skipBlank rest with
  | "digraph", '\x7b' :: rest => readStatements (text.length + 1) rest
  | _, _ => none

def linksOf (statements : List (List String)) : List (String × String) :=
  statements.flatMap fun names => names.zip names.tail

/-- The dump of the links of a graph reads as these links, with a reader that follows the language and knows nothing
of how the dump was written. -/
def Faithful (graph : Graph) : Prop := (readDigraph? (graphviz graph)).map linksOf = some graph.edges

def AlwaysFaithful (files : FileSystem) (root : String) (directories : List IncludeDirectory) (options : Options) : Prop :=
  ∀ graph, (Graph.build files root directories options).2 = .ok graph → Faithful graph

/-- A name that reads as itself between quotes: it holds no quote, and does not end in a backslash, which would keep
the closing quote from closing. -/
def Quotable (name : List Char) : Prop := '"' ∉ name ∧ name.getLast? ≠ some '\\'

def statement (edge : String × String) : List String := [edge.1, edge.2]

variable {name : List Char} {rest after : List Char} {depth : Nat}

/-- A name is quotable if its first character ends nothing, and stands for itself before the rest, which is quotable. -/
private theorem quotable_cons {c : Char} (rest : List Char) : Quotable (c :: name) ↔
    c ≠ '"' ∧ (∀ further, c = '\\' → name ++ '"' :: rest ≠ '"' :: further) ∧ Quotable name := by
  cases name with
  | nil =>
    constructor
    · rintro ⟨plain, last⟩
      refine ⟨fun same => plain (by simp [same]), fun _ same _ => last (by simp [same]), by simp [Quotable]⟩
    · rintro ⟨different, whole, -⟩
      exact ⟨by simpa using Ne.symm different, fun same => whole rest (by simpa using same) rfl⟩
  | cons other tail =>
    rw [Quotable, Quotable, List.mem_cons, not_or, List.getLast?_cons_cons]
    constructor
    · rintro ⟨⟨different, plain⟩, last⟩
      refine ⟨Ne.symm different, fun _ _ same => plain ?_, plain, last⟩
      rw [(List.cons.inj same).1]
      exact List.mem_cons_self
    · rintro ⟨different, -, plain, last⟩
      exact ⟨⟨Ne.symm different, plain⟩, last⟩

/-- A name between quotes reads as itself, up to the closing quote, exactly if it is quotable. -/
theorem readQuoted_eq_some_iff :
    readQuoted (name ++ '"' :: rest) = some (name, after) ↔ Quotable name ∧ after = rest := by
  induction name with
  | nil =>
    simp [readQuoted, Quotable, eq_comm]
  | cons c tail ih =>
    rw [quotable_cons rest, List.cons_append]
    by_cases closes : c = '"'
    · simp [closes, readQuoted]
    by_cases escapes : ∃ further, c = '\\' ∧ tail ++ '"' :: rest = '"' :: further
    · obtain ⟨further, rfl, shape⟩ := escapes
      simp [shape, readQuoted]
    · have plain : ∀ further, c = '\\' → tail ++ '"' :: rest ≠ '"' :: further :=
        fun further same shape => escapes ⟨further, same, shape⟩
      rw [readQuoted.eq_4 c _ closes plain, and_iff_right closes, and_iff_right plain, ← ih]
      simp [Option.map_eq_some_iff]

section
variable {word : String} {names : List String} {statements : List (List String)} {edge : String × String}
  {edges : List (String × String)}

private theorem readChain_blank (depth : Nat) (text : List Char) :
    readChain depth (' ' :: text) = readChain depth text := by
  have same : skipBlank (' ' :: text) = skipBlank text := rfl
  cases depth with
  | zero => rfl
  | succ depth => rw [readChain, readChain, same]

private theorem readStatements_feed (depth : Nat) (text : List Char) :
    readStatements depth ('\n' :: text) = readStatements depth text := by
  have same : skipBlank ('\n' :: text) = skipBlank text := rfl
  cases depth with
  | zero => rfl
  | succ depth => rw [readStatements, readStatements, same]

private theorem readName_eq_some_iff : readName ('"' :: (word.toList ++ '"' :: rest)) = some (word, after) ↔
    Quotable word.toList ∧ after = rest := by
  rw [readName, Option.map_eq_some_iff, ← readQuoted_eq_some_iff]
  constructor
  · rintro ⟨⟨name, end_⟩, read, same⟩
    obtain ⟨rfl, rfl⟩ := Prod.mk.inj same
    rwa [String.toList_ofList] at read ⊢
  · intro read
    exact ⟨_, read, Prod.ext String.ofList_toList rfl⟩

/-- A chain begins with the name that is read first. -/
private theorem quotable_of_readChain
    (read : readChain depth ('"' :: (word.toList ++ '"' :: rest)) = some (word :: names, after)) :
    Quotable word.toList := by
  have start : ∀ text, skipBlank ('"' :: text) = '"' :: text := fun _ => rfl
  cases depth with
  | zero => cases read
  | succ depth =>
    rw [readChain, start, Option.bind_eq_bind, Option.bind_eq_some_iff] at read
    obtain ⟨⟨name, behind⟩, named, chained⟩ := read
    -- Whether the chain goes on or not, its first name is the one that was read.
    have same : name = word := by
      dsimp only at chained
      split at chained
      · obtain ⟨later, -, joined⟩ := Option.bind_eq_some_iff.mp chained
        exact (List.cons.inj (Prod.mk.inj (Option.some.inj joined)).1).1
      · exact (List.cons.inj (Prod.mk.inj (Option.some.inj chained)).1).1
    exact (readName_eq_some_iff.mp (same ▸ named)).1

private theorem readChain_arrow (quotable : Quotable word.toList) :
    readChain (depth + 1) ('"' :: (word.toList ++ '"' :: ' ' :: '-' :: '>' :: rest)) =
      (readChain depth rest).map fun (names, after) => (word :: names, after) := by
  have start : ∀ text, skipBlank ('"' :: text) = '"' :: text := fun _ => rfl
  have arrow : skipBlank (' ' :: '-' :: '>' :: rest) = '-' :: '>' :: rest := rfl
  rw [readChain, start, readName_eq_some_iff.mpr ⟨quotable, rfl⟩]
  simp only [Option.bind_eq_bind, Option.bind_some, arrow, Option.map_eq_bind]
  rfl

private theorem readChain_last (quotable : Quotable word.toList) :
    readChain (depth + 1) ('"' :: (word.toList ++ '"' :: ';' :: rest)) = some ([word], ';' :: rest) := by
  have start : ∀ text, skipBlank ('"' :: text) = '"' :: text := fun _ => rfl
  have stop : skipBlank (';' :: rest) = ';' :: rest := rfl
  rw [readChain, start, readName_eq_some_iff.mpr ⟨quotable, rfl⟩]
  simp only [Option.bind_eq_bind, Option.bind_some, stop]
  rfl

def body : List (String × String) → List Char
  | [] => ['\x7d']
  | edge :: rest => '\t' :: '"' :: (edge.1.toList ++ '"' :: ' ' :: '-' :: '>' :: ' ' :: '"' ::
      (edge.2.toList ++ '"' :: ';' :: '\n' :: body rest))

private theorem toList_lines (line : List Char) (edges : List (String × String)) :
    ['\n'].intercalate (line :: (edges.map fun edge => (graphvizEdge edge).toList) ++ [['\x7d']]) =
      line ++ '\n' :: body edges := by
  induction edges generalizing line with
  | nil => simp [List.intercalate, List.intersperse, body]
  | cons edge rest ih =>
    have next := ih (graphvizEdge edge).toList
    rw [List.map_cons, List.cons_append, List.cons_append, List.intercalate_cons_cons, ← List.cons_append, next]
    simp [body, graphvizEdge]

theorem toList_graphviz (graph : Graph) :
    (graphviz graph).toList = "digraph A \x7b".toList ++ '\n' :: body graph.edges := by
  rw [← toList_lines, graphviz, String.toList_intercalate, List.map_append, List.map_cons, List.map_map]
  rfl

private theorem readChain_edge :
    readChain (depth + 2) ('"' :: (edge.1.toList ++ '"' :: ' ' :: '-' :: '>' :: ' ' :: '"' ::
    (edge.2.toList ++ '"' :: ';' :: rest))) = some (statement edge, after) ↔
      Quotable edge.1.toList ∧ Quotable edge.2.toList ∧ after = ';' :: rest := by
  constructor
  · intro read
    have first := quotable_of_readChain read
    rw [readChain_arrow first, readChain_blank, Option.map_eq_some_iff] at read
    obtain ⟨⟨names, end_⟩, read, same⟩ := read
    obtain ⟨joined, rfl⟩ := Prod.mk.inj same
    obtain rfl : names = [edge.2] := (List.cons.inj joined).2
    have second := quotable_of_readChain read
    rw [readChain_last second] at read
    exact ⟨first, second, (Prod.mk.inj (Option.some.inj read)).2.symm⟩
  · rintro ⟨first, second, rfl⟩
    rw [readChain_arrow first, readChain_blank, readChain_last second]
    rfl

private theorem readStatements_next {text quoted : List Char} (start : skipBlank text = '"' :: quoted) :
    readStatements (depth + 1) text = some (names :: statements) ↔
      ∃ after, readChain depth ('"' :: quoted) = some (names, after) ∧
        readStatements depth (skipSemicolon (skipBlank after)) = some statements := by
  rw [readStatements, start]
  simp only [Option.bind_eq_bind, Option.pure_def]
  constructor
  · intro read
    obtain ⟨⟨chain, after⟩, chained, later⟩ := Option.bind_eq_some_iff.mp read
    obtain ⟨others, further, same⟩ := Option.bind_eq_some_iff.mp later
    obtain ⟨rfl, rfl⟩ := List.cons.inj (Option.some.inj same)
    exact ⟨after, chained, further⟩
  · rintro ⟨after, chained, further⟩
    simp [chained, further]

/-- The statements behind one another: a line reads as its link exactly if its two names are quotable, and then the next
line is read from its start. -/
private theorem readStatements_body (enough : edges.length + 2 < depth) :
    readStatements depth (body edges) = some (edges.map statement) ↔
      ∀ edge ∈ edges, Quotable edge.1.toList ∧ Quotable edge.2.toList := by
  induction edges generalizing depth with
  | nil =>
    obtain ⟨depth, rfl⟩ : ∃ within, depth = within + 1 := ⟨depth - 1, by omega⟩
    simp [readStatements, body, skipBlank, isBlank]
  | cons edge rest ih =>
    rw [List.length_cons] at enough
    -- The two names of a line are read a level deeper each.
    obtain ⟨depth, rfl⟩ : ∃ within, depth = within + 3 := ⟨depth - 3, by omega⟩
    have others := ih (by omega : rest.length + 2 < depth + 2)
    have later : readStatements (depth + 2) (skipSemicolon (skipBlank (';' :: '\n' :: body rest))) =
        readStatements (depth + 2) (body rest) := readStatements_feed _ _
    rw [List.forall_mem_cons, ← others, body, List.map_cons, readStatements_next rfl]
    constructor
    · rintro ⟨after, chained, further⟩
      obtain ⟨first, second, rfl⟩ := readChain_edge.mp chained
      exact ⟨⟨first, second⟩, later ▸ further⟩
    · rintro ⟨⟨first, second⟩, further⟩
      exact ⟨_, readChain_edge.mpr ⟨first, second, rfl⟩, later.trans further⟩

private theorem linksOf_statements (edges : List (String × String)) : linksOf (edges.map statement) = edges := by
  simp [linksOf, List.flatMap_map, statement]

/-- Behind the brace that opens the digraph stand its statements. -/
theorem readDigraph?_graphviz (graph : Graph) : readDigraph? (graphviz graph) =
    readStatements ((graphviz graph).length + 1) (body graph.edges) := by
  have keyword : readWord ("digraph A \x7b".toList ++ '\n' :: body graph.edges) =
      some ("digraph", " A \x7b".toList ++ '\n' :: body graph.edges) := rfl
  have named : readName (skipBlank (" A \x7b".toList ++ '\n' :: body graph.edges)) =
      some ("A", " \x7b".toList ++ '\n' :: body graph.edges) := rfl
  have opened : skipBlank (" \x7b".toList ++ '\n' :: body graph.edges) = '\x7b' :: '\n' :: body graph.edges := rfl
  rw [readDigraph?, toList_graphviz, keyword, Option.bind_eq_bind, Option.bind_some]
  dsimp only
  rw [named, Option.bind_some]
  dsimp only
  rw [opened]
  exact readStatements_feed _ _

/-- Every line of a dump takes a character. -/
private theorem length_edges_lt (graph : Graph) : graph.edges.length + 2 < (graphviz graph).length + 1 := by
  have lines : ∀ edges, edges.length ≤ (body edges).length := by
    intro edges
    induction edges with
    | nil => simp
    | cons edge rest ih =>
      simp only [body, List.length_cons, List.length_append]
      omega
  have shape := congrArg List.length (toList_graphviz graph)
  have few := lines graph.edges
  rw [String.length_toList, List.length_append, List.length_cons] at shape
  have front : "digraph A \x7b".toList.length = 11 := rfl
  omega

/-- The dump of a graph reads as one statement for each link, in order and nothing else, exactly if every name that it
has to write can stand between quotes. It is then faithful. -/
theorem graphviz_reads (graph : Graph) :
    (readDigraph? (graphviz graph) = some (graph.edges.map statement) ↔
      ∀ edge ∈ graph.edges, Quotable edge.1.toList ∧ Quotable edge.2.toList) ∧
    ((∀ edge ∈ graph.edges, Quotable edge.1.toList ∧ Quotable edge.2.toList) → Faithful graph) := by
  have reads : readDigraph? (graphviz graph) = some (graph.edges.map statement) ↔
      ∀ edge ∈ graph.edges, Quotable edge.1.toList ∧ Quotable edge.2.toList := by
    rw [readDigraph?_graphviz]
    exact readStatements_body (length_edges_lt graph)
  refine ⟨reads, ?_⟩
  intro quotable
  rw [Faithful, reads.mpr quotable, Option.map_some, linksOf_statements]

end

def quoting : FileSystem :=
  ⟨["w"], ⟨[(["w"], .directory true), (["w", "m.cpp"], textEntry "#include \"a\"b.h\"\n")]⟩⟩

def quotingGraph : Graph where
  root := "/w/m.cpp"
  nodes := ⟨[
    ("/w/m.cpp", ⟨.source, .file "/w/m.cpp" true, .resolved, none, some [.file "/w/a\"b.h"]⟩),
    ("/w/a\"b.h", ⟨.header, .file "/w/a\"b.h" false, .resolved, some "/w/m.cpp", none⟩)]⟩
  systems := {}
  usedPaths := ["/w"]
  diagnostics := [.missing "/w/a\"b.h"]

private theorem quoting_built : (Graph.build quoting "m.cpp" [] {}).2 = .ok quotingGraph := by
  have indexed : (HeaderIndex.build quoting [".h"] []).2 = .ok {} := rfl
  exact build_of_endWithin 3 indexed (by decide +kernel)

/-- The name ends at its own quote, and what is left of it is no DOT. -/
theorem not_alwaysFaithful_quoting : ¬ AlwaysFaithful quoting "m.cpp" [] {} := by
  intro faithful
  have unread : readDigraph? (graphviz quotingGraph) = none := by decide +kernel
  have read := faithful quotingGraph quoting_built
  rw [Faithful, unread] at read
  cases read

end IncludeGraph.Proofs.DotReading
