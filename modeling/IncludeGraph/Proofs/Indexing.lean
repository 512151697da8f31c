import IncludeGraph.HeaderIndex
import IncludeGraph.Proofs.Walks

/-! What the index of declared directories holds: a name leads to the header that the last directory with a header of
this name provides. Directories are indexed up to the first that is none, or below which a directory cannot be
listed. -/

namespace IncludeGraph.Proofs.Indexing
open FileSystem Paths Walks HeaderIndex

def topOf (files : FileSystem) (directory : IncludeDirectory) : String :=
  Path.absolute files.currentPath directory.path

/-- A declared directory that exists, with all directories below it listable that are reached without entering a
link. -/
structure Indexable (files : FileSystem) (directory : IncludeDirectory) : Prop where
  exists_ : files.isDirectory (topOf files directory) = true
  listable : ∀ names, Reached files (topOf files directory) names →
    ∃ entries, files.list (pathBelow (topOf files directory) names) = .ok entries

/-- Below a declared directory stands a header with this include name, at this path. It is no link, and no link was
entered on the way to it. -/
def Provides (files : FileSystem) (suffixes : List String) (directory : IncludeDirectory) (name path : String) : Prop :=
  ∃ names file, Reached files (topOf files directory) names ∧ Holds files (topOf files directory) names file ∧
    (∃ suffix ∈ suffixes, suffix.toList <:+ file.toList) ∧
    IncludeDirectory.includeName directory.shorthand (relativePath (names ++ [file])) = name ∧
    path = Path.join (topOf files directory) (relativePath (names ++ [file]))

/-- The last directory that provides the name at all provides it at this path. Of several declared directories the
last one wins. -/
def ProvidedLast (files : FileSystem) (suffixes : List String) (directories : List IncludeDirectory)
    (name path : String) : Prop :=
  ∃ early directory late, directories = early ++ directory :: late ∧ Provides files suffixes directory name path ∧
    ∀ later ∈ late, ∀ other, ¬ Provides files suffixes later name other

inductive Refuses (files : FileSystem) (directory : IncludeDirectory) : Refusal → Prop where
  | notFound (absent : files.isDirectory (topOf files directory) = false) :
    Refuses files directory (.notFound directory.path)
  | unlistable {names fault} (exists_ : files.isDirectory (topOf files directory) = true)
      (reached : Reached files (topOf files directory) names)
      (refused : files.list (pathBelow (topOf files directory) names) = .error fault) :
    Refuses files directory (.unlistable directory.path (pathBelow (topOf files directory) names) fault)

variable {files : FileSystem} {suffixes : List String} {directory : IncludeDirectory} {name path : String}

private theorem topOf_ne_empty (files : FileSystem) (directory : IncludeDirectory) : topOf files directory ≠ "" := by
  intro empty
  have none := String.toList_eq_nil_iff.mpr empty
  simp only [topOf, Path.absolute, Path.collapse, String.toList_ofList, List.append_eq_nil_iff] at none
  have slashes : ∀ path, Path.rootSlashes path ≠ [] := by
    intro path
    unfold Path.rootSlashes
    split <;> simp
  exact slashes _ none.1

private theorem Refuses.not_indexable {refusal : Refusal} (refuses : Refuses files directory refusal) :
    ¬ Indexable files directory := by
  intro indexable
  cases refuses with
  | notFound absent => simp [indexable.exists_] at absent
  | @unlistable names fault _ reached refused =>
    obtain ⟨entries, listed⟩ := indexable.listable names reached
    simp [refused] at listed

theorem includeName_injective {shorthand first second : String}
    (same : IncludeDirectory.includeName shorthand first = IncludeDirectory.includeName shorthand second) :
    first = second := by
  simp only [IncludeDirectory.includeName] at same
  split at same
  · exact same
  · exact (String.append_right_inj _).mp same

/-- A directory provides a name at one path. -/
theorem Provides.unique {other : String} (first : Provides files suffixes directory name path)
    (second : Provides files suffixes directory name other) : path = other := by
  obtain ⟨_, _, -, -, -, named, rfl⟩ := first
  obtain ⟨_, _, -, -, -, same, rfl⟩ := second
  rw [includeName_injective (named.trans same.symm)]

theorem Provides.isFile (provides : Provides files suffixes directory name path) : files.isFile path = true := by
  obtain ⟨names, file, -, ⟨_, _, -, -, -, -, regular⟩, -, -, rfl⟩ := provides
  rwa [pathBelow_concat_eq_join] at regular

/-- The names that no header bears are left as they were. -/
private theorem enterAll_of_absent {shorthand : String} {headers : Table String String} {found : List Found}
    (absent : ∀ header ∈ found, IncludeDirectory.includeName shorthand header.relative ≠ name) :
    (enterAll shorthand headers found).2.find? name = headers.find? name := by
  induction found generalizing headers with
  | nil => rfl
  | cons header rest ih =>
    simp only [enterAll]
    rw [ih fun other member => absent other (by simp [member])]
    exact Table.find?_insert_of_ne (absent header (by simp)) _ _

/-- Where all headers of a name stand at one path, the name leads there. -/
private theorem enterAll_of_present {shorthand : String} {headers : Table String String} {found : List Found}
    (present : ∃ header ∈ found, IncludeDirectory.includeName shorthand header.relative = name)
    (same : ∀ header ∈ found, IncludeDirectory.includeName shorthand header.relative = name → header.path = path) :
    (enterAll shorthand headers found).2.find? name = some path := by
  induction found generalizing headers with
  | nil => simp at present
  | cons header rest ih =>
    simp only [enterAll]
    have others : ∀ header ∈ rest, IncludeDirectory.includeName shorthand header.relative = name → header.path = path :=
      fun other member => same other (by simp [member])
    by_cases later : ∃ header ∈ rest, IncludeDirectory.includeName shorthand header.relative = name
    · exact ih later others
    · have absent : ∀ header ∈ rest, IncludeDirectory.includeName shorthand header.relative ≠ name :=
        fun other member equal => later ⟨other, member, equal⟩
      obtain ⟨first, member, named⟩ := present
      obtain rfl : first = header := by
        rcases List.mem_cons.mp member with same | inside
        · exact same
        · exact absurd named (absent first inside)
      rw [enterAll_of_absent absent]
      simp only [enter, named, Table.find?_insert_self, same first (by simp) named]

theorem hasSuffix_pathBelow_iff {top file : String} {names : List String} (valid : ∀ name ∈ names, isName name = true)
    (last : isName file = true) : hasSuffix suffixes (pathBelow top (names ++ [file])) = true ↔
      ∃ suffix ∈ suffixes, suffix.toList <:+ file.toList := by
  simp [hasSuffix, basename_pathBelow top valid last]

/-- The headers found by a walk to its end are those that the directory provides. -/
private theorem provides_iff_of_charts {survey : Survey} (charts : Charts files (topOf files directory) [] survey)
    (ends : survey.stopped = none) : Provides files suffixes directory name path ↔
      ∃ header ∈ survey.files.filter (hasSuffix suffixes ·.path),
        IncludeDirectory.includeName directory.shorthand header.relative = name ∧ header.path = path := by
  have named : ∀ names file, Reached files (topOf files directory) names →
      Holds files (topOf files directory) names file → (hasSuffix suffixes
        (pathBelow (topOf files directory) (names ++ [file])) = true ↔
          ∃ suffix ∈ suffixes, suffix.toList <:+ file.toList) := by
    rintro names file reached ⟨entries, entry, listed, member, -⟩
    exact hasSuffix_pathBelow_iff (isName_of_reached (by simp) reached) (isName_of_listed listed member)
  constructor
  · rintro ⟨names, file, reached, holds, suffix, rfl, rfl⟩
    refine ⟨foundAt _ (names ++ [file]), List.mem_filter.mpr ⟨?_, ?_⟩, rfl, pathBelow_concat_eq_join _ _ _⟩
    · exact (charts.found ends _).mpr ⟨names, file, reached, holds, rfl⟩
    · exact (named names file reached holds).mpr suffix
  · rintro ⟨header, member, rfl, rfl⟩
    obtain ⟨inside, suffix⟩ := List.mem_filter.mp member
    obtain ⟨names, file, reached, holds, rfl⟩ := (charts.found ends header).mp inside
    exact ⟨names, file, reached, holds, (named names file reached holds).mp suffix, rfl, pathBelow_concat_eq_join _ _ _⟩

structure Adds (files : FileSystem) (suffixes : List String) (directory : IncludeDirectory)
    (before after : HeaderIndex) : Prop where
  indexable : Indexable files directory
  provided : ∀ name path, Provides files suffixes directory name path → after.find? name = some path
  others : ∀ name, (∀ path, ¬ Provides files suffixes directory name path) → after.find? name = before.find? name

theorem addDirectory_cases (files : FileSystem) (suffixes : List String) (index : HeaderIndex)
    (directory : IncludeDirectory) :
    (∃ refusal, (addDirectory files suffixes index directory).2 = .error refusal ∧ Refuses files directory refusal) ∨
      ∃ after, (addDirectory files suffixes index directory).2 = .ok after ∧
        Adds files suffixes directory index after := by
  have charts := walk_charts files (topOf_ne_empty files directory)
  have top : Path.absolute files.currentPath directory.path = topOf files directory := rfl
  simp only [addDirectory, top]
  cases exists_ : files.isDirectory (topOf files directory) with
  | false => exact Or.inl ⟨_, rfl, .notFound exists_⟩
  | true =>
    rw [if_neg (by simp)]
    cases stopped : (files.walk (topOf files directory)).stopped with
    | some refusal =>
      obtain ⟨names, reached, same, refused⟩ := charts.refused refusal.1 refusal.2 stopped
      refine Or.inl ⟨.unlistable directory.path refusal.1 refusal.2, rfl, ?_⟩
      rw [same] at refused ⊢
      exact .unlistable exists_ reached refused
    | none =>
      have provided : ∀ name path, Provides files suffixes directory name path ↔ _ :=
        fun name path => provides_iff_of_charts charts stopped
      refine Or.inr ⟨_, rfl, ⟨exists_, charts.listed stopped⟩, ?_, ?_⟩
      · intro name path provides
        obtain ⟨header, member, named, -⟩ := (provided name path).mp provides
        apply enterAll_of_present ⟨header, member, named⟩
        -- Headers below one directory do not share a name, so that the last one entered is the one provided.
        intro other inside same
        exact ((provided name _).mpr ⟨other, inside, same, rfl⟩).unique provides
      · intro name absent
        apply enterAll_of_absent
        intro header member named
        exact absent header.path ((provided name _).mpr ⟨header, member, named, rfl⟩)

structure AddsAll (files : FileSystem) (suffixes : List String) (directories : List IncludeDirectory)
    (before after : HeaderIndex) : Prop where
  indexable : ∀ directory ∈ directories, Indexable files directory
  provided : ∀ name path, ProvidedLast files suffixes directories name path → after.find? name = some path
  others : ∀ name, (∀ directory ∈ directories, ∀ path, ¬ Provides files suffixes directory name path) →
    after.find? name = before.find? name

private theorem AddsAll.cons {before middle after : HeaderIndex} {rest : List IncludeDirectory}
    (first : Adds files suffixes directory before middle) (more : AddsAll files suffixes rest middle after) :
    AddsAll files suffixes (directory :: rest) before after := by
  refine ⟨List.forall_mem_cons.mpr ⟨first.indexable, more.indexable⟩, ?_, ?_⟩
  · rintro name path ⟨early, provider, late, shape, provides, last⟩
    cases early with
    | nil =>
      obtain ⟨rfl, rfl⟩ := List.cons.inj shape
      rw [more.others name last]
      exact first.provided name path provides
    | cons first early =>
      obtain ⟨rfl, rfl⟩ := List.cons.inj shape
      exact more.provided name path ⟨early, provider, late, rfl, provides, last⟩
  · intro name absent
    rw [more.others name fun other member => absent other (by simp [member])]
    exact first.others name (absent directory (by simp))

private theorem addDirectories_of_refused {index : HeaderIndex} {refusal : Refusal} (rest : List IncludeDirectory)
    (refused : (addDirectory files suffixes index directory).2 = .error refusal) :
    (addDirectories files suffixes index (directory :: rest)).2 = .error refusal := by
  rcases all : addDirectory files suffixes index directory with ⟨told, result⟩
  obtain rfl : result = .error refusal := by simpa [all] using refused
  simp only [addDirectories, all]

private theorem addDirectories_of_added {index after : HeaderIndex} (rest : List IncludeDirectory)
    (added : (addDirectory files suffixes index directory).2 = .ok after) :
    (addDirectories files suffixes index (directory :: rest)).2 = (addDirectories files suffixes after rest).2 := by
  rcases all : addDirectory files suffixes index directory with ⟨told, result⟩
  obtain rfl : result = .ok after := by simpa [all] using added
  simp only [addDirectories, all]

/-- What indexing directories one after the other comes to: the first that is refused ends it, and otherwise the last
that provides a name decides it. -/
private theorem addDirectories_cases (files : FileSystem) (suffixes : List String) (index : HeaderIndex)
    (directories : List IncludeDirectory) :
    (∃ early directory late refusal, directories = early ++ directory :: late ∧
      (∀ earlier ∈ early, Indexable files earlier) ∧ Refuses files directory refusal ∧
      (addDirectories files suffixes index directories).2 = .error refusal) ∨
    ∃ after, (addDirectories files suffixes index directories).2 = .ok after ∧
      AddsAll files suffixes directories index after := by
  induction directories generalizing index with
  | nil =>
    refine Or.inr ⟨index, rfl, by simp, ?_, fun _ _ => rfl⟩
    rintro name path ⟨early, directory, late, shape, -⟩
    simp at shape
  | cons directory rest ih =>
    rcases addDirectory_cases files suffixes index directory with ⟨refusal, refused, why⟩ | ⟨middle, added, adds⟩
    · exact Or.inl ⟨[], directory, rest, refusal, rfl, by simp, why, addDirectories_of_refused rest refused⟩
    · rw [addDirectories_of_added rest added]
      rcases ih middle with ⟨early, next, late, refusal, rfl, fine, why, refused⟩ | ⟨after, done, more⟩
      · refine Or.inl ⟨directory :: early, next, late, refusal, rfl, ?_, why, refused⟩
        exact List.forall_mem_cons.mpr ⟨adds.indexable, fine⟩
      · exact Or.inr ⟨after, done, .cons adds more⟩

theorem exists_providedLast {directories : List IncludeDirectory} (member : directory ∈ directories)
    (provides : Provides files suffixes directory name path) :
    ∃ other, ProvidedLast files suffixes directories name other := by
  induction directories generalizing directory path with
  | nil => cases member
  | cons first rest ih =>
    by_cases later : ∃ next ∈ rest, ∃ other, Provides files suffixes next name other
    · obtain ⟨next, inside, other, provided⟩ := later
      obtain ⟨last, early, provider, late, shape, decides⟩ := ih inside provided
      exact ⟨last, first :: early, provider, late, by simp [shape], decides⟩
    · have here : directory = first := by
        rcases List.mem_cons.mp member with same | inside
        · exact same
        · exact absurd ⟨directory, inside, path, provides⟩ later
      subst here
      refine ⟨path, [], directory, rest, rfl, provides, ?_⟩
      intro next inside other provided
      exact later ⟨next, inside, other, provided⟩

/-- An index of declared directories: what each name leads to, and which names lead nowhere. Both are told from the
disk alone, without the order in which it was walked. -/
structure Indexes (files : FileSystem) (suffixes : List String) (directories : List IncludeDirectory)
    (index : HeaderIndex) : Prop where
  find?_eq_some : ∀ name path, index.find? name = some path ↔ ProvidedLast files suffixes directories name path
  find?_eq_none : ∀ name, index.find? name = none ↔
    ∀ directory ∈ directories, ∀ path, ¬ Provides files suffixes directory name path

theorem indexes_of_built {directories : List IncludeDirectory} {index : HeaderIndex}
    (built : (HeaderIndex.build files suffixes directories).2 = .ok index) :
    Indexes files suffixes directories index := by
  rcases addDirectories_cases files suffixes {} directories with
    ⟨_, _, _, refusal, -, -, -, refused⟩ | ⟨after, done, all⟩
  · cases built.symm.trans refused
  obtain rfl := Except.ok.inj (done.symm.trans built)
  -- The empty index knows no name, so that a name leads nowhere where no directory provides it.
  have nowhere : ∀ name, (∀ directory ∈ directories, ∀ path, ¬ Provides files suffixes directory name path) →
      after.find? name = none := fun name absent => all.others name absent
  refine ⟨fun name path => ⟨fun found => ?_, all.provided name path⟩, fun name => ⟨fun absent => ?_, nowhere name⟩⟩
  · by_cases provided : ∃ directory ∈ directories, ∃ other, Provides files suffixes directory name other
    · obtain ⟨directory, member, other, provides⟩ := provided
      obtain ⟨last, decides⟩ := exists_providedLast member provides
      obtain rfl := Option.some.inj ((all.provided name last decides).symm.trans found)
      exact decides
    · have absent := nowhere name fun directory member other provides => provided ⟨directory, member, other, provides⟩
      cases found.symm.trans absent
  · intro directory member path provides
    obtain ⟨last, decides⟩ := exists_providedLast member provides
    cases (all.provided name last decides).symm.trans absent

/-- A header of an index is a regular file. -/
theorem isFile_of_indexed {directories : List IncludeDirectory} {index : HeaderIndex}
    (built : (HeaderIndex.build files suffixes directories).2 = .ok index) (found : index.find? name = some path) :
    files.isFile path = true := by
  obtain ⟨_, _, _, -, provides, -⟩ := ((indexes_of_built built).find?_eq_some name path).mp found
  exact provides.isFile

/-- Indexing succeeds where all that it walks can be listed, and is refused for the first directory where this is not
so; and then a name leads to the header of the last directory that provides it. -/
theorem build_indexes (files : FileSystem) (suffixes : List String) (directories : List IncludeDirectory) :
    ((∃ index, (HeaderIndex.build files suffixes directories).2 = .ok index) ↔
      ∀ directory ∈ directories, Indexable files directory) ∧
    (¬ (∀ directory ∈ directories, Indexable files directory) → ∃ early directory late refusal,
      directories = early ++ directory :: late ∧ (∀ earlier ∈ early, Indexable files earlier) ∧
      Refuses files directory refusal ∧ (HeaderIndex.build files suffixes directories).2 = .error refusal) ∧
    ∀ index, (HeaderIndex.build files suffixes directories).2 = .ok index →
      Indexes files suffixes directories index := by
  refine ⟨⟨?_, ?_⟩, ?_, fun index => indexes_of_built⟩
  all_goals rcases addDirectories_cases files suffixes {} directories with
    ⟨early, directory, late, refusal, shape, fine, why, refused⟩ | ⟨after, done, all⟩
  · rintro ⟨index, built⟩
    cases built.symm.trans refused
  · exact fun _ => all.indexable
  · intro fine
    exact absurd (fine directory (by simp [shape])) why.not_indexable
  · exact fun _ => ⟨after, done⟩
  · exact fun _ => ⟨early, directory, late, refusal, shape, fine, why, refused⟩
  · exact fun unfit => absurd all.indexable unfit

/-- Headers that collide under one name, links to a header and up to the directory itself, and a directory that cannot
be listed below another one. -/
def shelves : FileSystem :=
  ⟨["w"], ⟨[(["w"], .directory true),
    (["w", "i"], .directory true),
    (["w", "i", "k.h"], .link "x/b.h"),
    (["w", "i", "up"], .link ".."),
    (["w", "i", "x"], .directory true),
    (["w", "i", "x", "b.h"], .file []),
    (["w", "i", "x", "n.txt"], .file []),
    (["w", "j"], .directory true),
    (["w", "j", "b.h"], .locked),
    (["w", "closed"], .directory true),
    (["w", "closed", "in"], .directory false)]⟩⟩

def shelvesIndex : HeaderIndex := ⟨⟨[("x/b.h", "/w/j/b.h")]⟩, ["/w/i", "/w/i/x", "/w/j"]⟩

theorem build_indexes_shelves :
    (∀ directory ∈ [⟨"i", ""⟩, ⟨"i/x", "x"⟩, ⟨"j", "x"⟩], Indexable shelves directory) ∧
    ProvidedLast shelves [".h"] [⟨"i", ""⟩, ⟨"i/x", "x"⟩, ⟨"j", "x"⟩] "x/b.h" "/w/j/b.h" ∧
    (∀ directory ∈ [⟨"i", ""⟩, ⟨"i/x", "x"⟩, ⟨"j", "x"⟩], ∀ path, ¬ Provides shelves [".h"] directory "k.h" path) ∧
    ∃ refusal, Refuses shelves ⟨"closed", ""⟩ refusal := by
  have built : (HeaderIndex.build shelves [".h"] [⟨"i", ""⟩, ⟨"i/x", "x"⟩, ⟨"j", "x"⟩]).2 = .ok shelvesIndex := by
    decide +kernel
  have stopped : (HeaderIndex.build shelves [".h"] [⟨"closed", ""⟩]).2.toOption = none := by decide +kernel
  have indexes := (build_indexes shelves [".h"] _).2.2 shelvesIndex built
  have unfit : ¬ ∀ directory ∈ [(⟨"closed", ""⟩ : IncludeDirectory)], Indexable shelves directory := by
    intro fine
    obtain ⟨index, done⟩ := (build_indexes shelves [".h"] _).1.mpr fine
    rw [done] at stopped
    cases stopped
  obtain ⟨early, directory, late, refusal, shape, -, why, -⟩ := (build_indexes shelves [".h"] _).2.1 unfit
  refine ⟨(build_indexes shelves [".h"] _).1.mp ⟨_, built⟩, ?_, ?_, refusal, ?_⟩
  · exact (indexes.find?_eq_some "x/b.h" "/w/j/b.h").mp (by decide)
  · exact (indexes.find?_eq_none "k.h").mp (by decide)
  · have member : directory ∈ [(⟨"closed", ""⟩ : IncludeDirectory)] := by simp [shape]
    rwa [List.mem_singleton.mp member] at why

end IncludeGraph.Proofs.Indexing
