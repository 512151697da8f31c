import IncludeGraph.Proofs.Closure
import IncludeGraph.Proofs.Indexing
import IncludeGraph.Proofs.Scanning

/-! Whether the names of an index can be included. What the index calls a header is read back from a directive in angle
brackets character by character, whatever the characters are, but for blanks: the scanner cuts a name at the first. -/

namespace IncludeGraph.Proofs.Includable
open Text Traversal Resolution WorklistInvariant Builds Closure Indexing Paths Walks Scanning

/-- The file consists of one line, a directive with angle brackets around the name. -/
def HoldsOnly (files : FileSystem) (path name : String) : Prop :=
  ∃ ending, Ending ending ∧ files.read path = .ok (Utf8.encode (angled name.toList ++ ending))

def meant (index : HeaderIndex) (name : String) : Ref :=
  match index.find? name with
  | some path => .file path
  | none => .system name

/-- Every name of the index leads to its header from a root that includes nothing else. This is what an includable
name is for. -/
def NamesInclude (files : FileSystem) (root : String) (directories : List IncludeDirectory) (options : Options) :
    Prop :=
  ∀ index graph, (HeaderIndex.build files options.headerSuffixes directories).2 = .ok index →
    (Graph.build files root directories options).2 = .ok graph →
    ∀ name path, (name, path) ∈ index.items → HoldsOnly files graph.root name →
      path ∈ graph.nodes.keys ∧
        ∃ node, graph.nodes.find? graph.root = some node ∧ node.children = some [.file path]

variable {files : FileSystem} {around : Surroundings} {root name path : String} {graph : Graph} {index : HeaderIndex}
  {directories : List IncludeDirectory} {options : Options}

private theorem mem_items_iff : (name, path) ∈ index.items ↔ index.find? name = some path := by
  simp only [HeaderIndex.items, List.mem_filterMap, Option.map_eq_some_iff, Prod.mk.injEq]
  constructor
  · rintro ⟨other, -, target, found, rfl, rfl⟩
    exact found
  · intro found
    have known : name ∈ index.headers.keys := (Table.mem_keys_iff _ _).mpr ⟨path, found⟩
    exact ⟨name, Text.mem_ascending.mpr known, path, found, rfl, rfl⟩

private theorem ne_empty_of_indexed {suffixes : List String}
    (indexed : (HeaderIndex.build files suffixes directories).2 = .ok index) (found : index.find? name = some path) :
    name ≠ "" := by
  obtain ⟨_, directory, _, -, ⟨names, file, reached, ⟨entries, entry, listed, member, -⟩, -, rfl, -⟩, -⟩ :=
    ((indexes_of_built indexed).find?_eq_some name path).mp found
  have relative := relativePath_ne_empty names (isName_of_listed listed member)
  unfold IncludeDirectory.includeName
  split
  · exact relative
  next short => simp [short]

private theorem meant_of_found (found : index.find? name = some path) : meant index name = .file path := by
  rw [meant, found]

theorem eq_meant {directive : Directive} {child : Ref} (plain : directive.quoted = false)
    (means : MayMean around path directive child) : child = meant around.index directive.name := by
  cases means with
  | own quoted => cases plain.symm.trans quoted
  | indexed known => exact (meant_of_found known).symm
  | system _ unknown => rw [meant, unknown]

/-- A root of one line has the child that the scanned name means, if any name is left. -/
private theorem children_of_holdsOnly (closes : Closes around root graph) (unbroken : Unbroken name.toList)
    (only : HoldsOnly around.files root name) : ∃ node children, graph.nodes.find? root = some node ∧
      node.children = some children ∧ (∀ child ∈ children, Known graph.nodes graph.systems child) ∧
      children = if Directive.nameOf (angledToken name.toList) = [] then []
        else [meant around.index (String.ofList (Directive.nameOf (angledToken name.toList)))] := by
  obtain ⟨ending, ended, opens⟩ := only
  obtain ⟨-, node, found, -⟩ := closes.rooted
  obtain ⟨children, listed, means, known⟩ := closes.children root node _ found opens
  refine ⟨node, children, found, listed, known, ?_⟩
  rw [directivesOf_angled unbroken ended] at means
  split at means
  next empty => rw [List.forall₂_nil_left_iff.mp means, if_pos empty]
  next filled =>
    obtain ⟨child, rest, related, none, rfl⟩ := List.forall₂_cons_left_iff.mp means
    rw [List.forall₂_nil_left_iff.mp none, if_neg filled, eq_meant (isQuoted_angledToken _) related]
    rfl

/-- A name without blanks includes its header, and a name that a blank cuts is another name. -/
theorem build_includes (indexed : (HeaderIndex.build files options.headerSuffixes directories).2 = .ok index)
    (built : (Graph.build files root directories options).2 = .ok graph) (only : HoldsOnly files graph.root name) :
    (∀ path, (name, path) ∈ index.items → Unblank name.toList → path ∈ graph.nodes.keys ∧
      ∃ node, graph.nodes.find? graph.root = some node ∧ node.children = some [.file path]) ∧
    ∀ first c rest, name.toList = first ++ c :: rest → Unblank first → isBlank c = true → Unbroken name.toList →
      ∃ node, graph.nodes.find? graph.root = some node ∧
        node.children = some (if first.dropLast = [] then [] else [meant index (String.ofList first.dropLast)]) := by
  obtain ⟨other, last, same, finishes, rfl⟩ := build_ok_iff.mp built
  obtain rfl := Except.ok.inj (indexed.symm.trans same)
  have closes := closes_of_idle finishes.invariant finishes.idle
  constructor
  · intro path entry unblank
    have found := mem_items_iff.mp entry
    have filled : name.toList ≠ [] := fun empty => ne_empty_of_indexed indexed found (String.toList_eq_nil_iff.mp empty)
    obtain ⟨node, children, there, listed, known, shape⟩ := children_of_holdsOnly closes unblank.unbroken only
    rw [nameOf_unblank unblank, if_neg filled, String.ofList_toList, meant_of_found found] at shape
    subst shape
    exact ⟨known (.file path) (by simp), node, there, listed⟩
  · intro first c rest shape unblank blank unbroken
    have cut := nameOf_blank unblank blank rest
    rw [← shape] at cut
    obtain ⟨node, children, there, listed, -, same⟩ := children_of_holdsOnly closes unbroken only
    rw [cut] at same
    exact ⟨node, there, same ▸ listed⟩

def spaced : FileSystem :=
  ⟨["w"], ⟨[(["w"], .directory true),
    (["w", "m.cpp"], textEntry "#include <x/é.h>\r\n"), (["w", "n.cpp"], textEntry "#include <x/my a.h>\n"),
    (["w", "i"], .directory true), (["w", "i", "é.h"], textEntry ""), (["w", "i", "my a.h"], textEntry "")]⟩⟩

def spacedIndex : HeaderIndex := ⟨⟨[("x/my a.h", "/w/i/my a.h"), ("x/é.h", "/w/i/é.h")]⟩, ["/w/i"]⟩

def wholeGraph : Graph where
  root := "/w/m.cpp"
  nodes := ⟨[
    ("/w/m.cpp", ⟨.source, .file "/w/m.cpp" true, .resolved, none, some [.file "/w/i/é.h"]⟩),
    ("/w/i/é.h", ⟨.header, .file "/w/i/é.h" true, .resolved, some "/w/m.cpp", some []⟩)]⟩
  systems := {}
  usedPaths := ["/w/i", "/w"]
  diagnostics := []

def cutGraph : Graph where
  root := "/w/n.cpp"
  nodes := ⟨[("/w/n.cpp", ⟨.source, .file "/w/n.cpp" true, .resolved, none, some [.system "x/m"]⟩)]⟩
  systems := ⟨[("x/m", ⟨.header, .system "x/m", .created, some "/w/n.cpp", none⟩)]⟩
  usedPaths := ["/w/i", "/w"]
  diagnostics := []

private theorem spaced_indexed : (HeaderIndex.build spaced [".h"] [⟨"i", "x"⟩]).2 = .ok spacedIndex := by decide +kernel

private theorem whole_built : (Graph.build spaced "m.cpp" [⟨"i", "x"⟩] {}).2 = .ok wholeGraph :=
  build_of_endWithin 3 spaced_indexed (by decide +kernel)

private theorem cut_built : (Graph.build spaced "n.cpp" [⟨"i", "x"⟩] {}).2 = .ok cutGraph :=
  build_of_endWithin 3 spaced_indexed (by decide +kernel)

private theorem cut_holdsOnly : HoldsOnly spaced "/w/n.cpp" "x/my a.h" := ⟨['\n'], .single rfl, by decide +kernel⟩

theorem build_includes_spaced :
    (HoldsOnly spaced "/w/m.cpp" "x/é.h" ∧ "/w/i/é.h" ∈ wholeGraph.nodes.keys ∧
      ∃ node, wholeGraph.nodes.find? "/w/m.cpp" = some node ∧ node.children = some [.file "/w/i/é.h"]) ∧
    HoldsOnly spaced "/w/n.cpp" "x/my a.h" ∧
      ∃ node, cutGraph.nodes.find? "/w/n.cpp" = some node ∧ node.children = some [.system "x/m"] := by
  have whole : HoldsOnly spaced "/w/m.cpp" "x/é.h" := ⟨['\r', '\n'], .double, by decide +kernel⟩
  have unblank : Unblank "x/é.h".toList := by decide +kernel
  have unbroken : Unbroken "x/my a.h".toList := by decide +kernel
  have front : Unblank "x/my".toList := by decide +kernel
  obtain ⟨kept, -⟩ := build_includes spaced_indexed whole_built whole
  obtain ⟨-, cut⟩ := build_includes spaced_indexed cut_built cut_holdsOnly
  exact ⟨⟨whole, kept "/w/i/é.h" (by decide +kernel) unblank⟩, cut_holdsOnly,
    cut "x/my".toList ' ' "a.h".toList rfl front rfl unbroken⟩

theorem not_namesInclude_spaced : ¬ NamesInclude spaced "n.cpp" [⟨"i", "x"⟩] {} := by
  intro law
  obtain ⟨known, -⟩ := law spacedIndex cutGraph spaced_indexed cut_built "x/my a.h" "/w/i/my a.h" (by decide +kernel)
    cut_holdsOnly
  exact absurd known (by decide)

end IncludeGraph.Proofs.Includable
