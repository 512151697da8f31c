import IncludeGraph.FileSystem.Access
import IncludeGraph.Proofs.NormalPaths

/-! Where absolute paths lead when there are no links. What a path leads to stands at the place that the names of the
path spell, so that all paths to one file have the same names, and in normal form differ in their first slashes at
most. -/

namespace IncludeGraph.Proofs.Locations
open FileSystem NormalPaths

def Linkless (files : FileSystem) : Prop := ∀ place target, files.entry? place ≠ some (.link target)

def SameFile (files : FileSystem) (first second : String) : Prop :=
  ∃ place content, files.locate first = .ok (.taken place (.file content)) ∧
    files.locate second = .ok (.taken place (.file content))

def Respelt (first second : String) : Prop := first = "/" ++ second ∨ second = "/" ++ first

variable {files : FileSystem} {here parts place : List String} {path first second : String} {entry : Entry}

theorem linkless_of_entries (plain : ∀ item ∈ files.entries.entries, ∀ target, item.2 ≠ .link target) :
    Linkless files := by
  intro place target link
  unfold FileSystem.entry? at link
  split at link
  next found =>
    obtain rfl := Option.some.inj link
    exact plain _ (Table.mem_of_lookup found) target rfl
  · split at link
    · cases link
    · cases link

theorem place_of_advance (linkless : Linkless files) (arrives : files.advance here parts = .at (.taken place entry)) :
    (place.map String.toList).reverse =
      (parts.map String.toList).foldl Path.pushPart (here.map String.toList).reverse := by
  fun_induction FileSystem.advance files here parts with
  | case1 here found stands =>
    obtain ⟨rfl, -⟩ := Place.taken.inj (Arrival.at.inj arrives)
    rfl
  | case2 | case3 | case6 | case7 | case8 | case11 => cases arrives
  | case4 here part rest listable stands stays ih =>
    have skipped : part.toList = [] ∨ part.toList = ['.'] := by
      rcases stays with rfl | rfl
      · exact Or.inl rfl
      · exact Or.inr rfl
    rw [ih arrives, List.map_cons, List.foldl_cons, Path.pushPart, if_pos skipped]
  | case5 here rest listable stands plain ih =>
    rw [ih arrives, List.map_dropLast, ← List.tail_reverse]
    rfl
  | case9 here part rest listable stands plain up short target link =>
    exact absurd link (linkless _ _)
  | case10 here part rest listable stands plain up short other next link ih =>
    have unskipped : ¬ (part.toList = [] ∨ part.toList = ['.']) :=
      fun skipped => plain (skipped.imp (fun same => String.toList_inj.mp same) fun same => String.toList_inj.mp same)
    have unturned : part.toList ≠ ['.', '.'] := fun same => up (String.toList_inj.mp same)
    have kept : Path.pushPart (here.map String.toList).reverse part.toList =
        part.toList :: (here.map String.toList).reverse := by
      rw [Path.pushPart, if_neg unskipped, if_neg unturned]
    rw [ih arrives, List.map_cons, List.foldl_cons, kept]
    simp

private theorem advance_ne_redirected (linkless : Linkless files) (on : List String) (more : List String) :
    files.advance here parts ≠ .redirected on more := by
  intro redirected
  fun_induction FileSystem.advance files here parts with
  | case1 | case2 | case3 | case6 | case7 | case8 | case11 => cases redirected
  | case4 _ _ _ _ _ _ ih | case5 _ _ _ _ _ ih => exact ih redirected
  | case10 _ _ _ _ _ _ _ _ _ _ _ ih => exact ih redirected
  | case9 _ _ _ _ _ _ _ _ _ link => exact linkless _ _ link

theorem advance_of_follow (linkless : Linkless files) {links : Nat} {there : Place}
    (followed : files.follow links here parts = .ok there) : files.advance here parts = .at there := by
  cases links
  all_goals
    unfold FileSystem.follow at followed
    split at followed
    next arrives => rw [arrives, Except.ok.inj followed]
    · cases followed
    next redirected => exact absurd redirected (advance_ne_redirected linkless _ _)

theorem locate_ok_iff {there : Place} : files.locate path = .ok there ↔
    '\x00' ∉ path.toList ∧ path ≠ "" ∧ Text.Utf8.byteLength path < pathLimit ∧
      files.follow linkLimit (if isAbsolute path then [] else files.workingDirectory) (FileSystem.parts path) =
        .ok there := by
  unfold FileSystem.locate
  by_cases null : '\x00' ∈ path.toList
  · simp [null]
  by_cases empty : path = ""
  · simp [empty]
  by_cases long : pathLimit ≤ Text.Utf8.byteLength path
  · simp [null, empty, long, Nat.not_lt.mpr long]
  · simp [null, empty, long, Nat.lt_of_not_le long]

theorem read_ok_iff {bytes : List UInt8} :
    files.read path = .ok bytes ↔ ∃ place, files.locate path = .ok (.taken place (.file bytes)) := by
  unfold FileSystem.read
  split <;> simp_all

/-- An absolute path leads to the place that its names spell. -/
theorem names_of_located (linkless : Linkless files) (absolute : path.toList.head? = some '/')
    (located : files.locate path = .ok (.taken place entry)) : Path.names path.toList = place.map String.toList := by
  obtain ⟨-, -, -, followed⟩ := locate_ok_iff.mp located
  rw [isAbsolute, absolute, if_pos (by rfl)] at followed
  have stands := place_of_advance linkless (advance_of_follow linkless followed)
  have spelled : (FileSystem.parts path).map String.toList = Path.split path.toList := by
    simp [FileSystem.parts, Function.comp_def]
  rw [spelled] at stands
  rw [Path.names, ← List.reverse_reverse (place.map String.toList), stands]
  rfl

theorem SameFile.names (linkless : Linkless files) (same : SameFile files first second)
    (absolute : first.toList.head? = some '/') (other : second.toList.head? = some '/') :
    Path.names first.toList = Path.names second.toList := by
  obtain ⟨place, content, one, two⟩ := same
  rw [names_of_located linkless absolute one, names_of_located linkless other two]

theorem eq_or_respelt (normal : Normal first) (other : Normal second)
    (names : Path.names first.toList = Path.names second.toList) : first = second ∨ Respelt first second := by
  have spelled : ∀ path, Normal path → path.toList =
      Path.rootSlashes path.toList ++ List.intercalate ['/'] (Path.names path.toList) := by
    intro path normal
    rw [← String.toList_ofList (l := _ ++ _)]
    exact congrArg String.toList (collapse_of_normal normal).symm
  have one := spelled first normal
  have two := spelled second other
  rw [names] at one
  generalize Path.names second.toList = names at one two
  rcases rootSlashes_cases first.toList with single | double <;>
    rcases rootSlashes_cases second.toList with last | twice
  · exact Or.inl (String.ext (by rw [one, two, single, last]))
  · exact Or.inr (Or.inr (String.ext (by rw [two, twice, String.toList_append, one, single]; rfl)))
  · exact Or.inr (Or.inl (String.ext (by rw [one, double, String.toList_append, two, last]; rfl)))
  · exact Or.inl (String.ext (by rw [one, two, double, twice]))

section
variable {listable : Bool} {part : String}

theorem advance_stays (stands : files.entry? here = some (.directory listable)) (stays : part = "" ∨ part = ".") :
    files.advance here (part :: parts) = files.advance here parts := by
  rw [advance, stands]
  exact if_pos stays

theorem advance_up (stands : files.entry? here = some (.directory listable)) :
    files.advance here (".." :: parts) = files.advance here.dropLast parts := by
  rw [advance, stands]
  exact (if_neg (by simp)).trans (if_pos rfl)

theorem advance_link (stands : files.entry? here = some (.directory listable)) (plain : ¬ (part = "" ∨ part = "."))
    (up : part ≠ "..") (short : ¬ nameLimit < Text.Utf8.byteLength part) {target : String}
    (link : files.entry? (here ++ [part]) = some (.link target)) : files.advance here (part :: parts) =
      .redirected (if isAbsolute target then [] else here) (FileSystem.parts target ++ parts) := by
  rw [advance, stands]
  dsimp only
  rw [if_neg plain, if_neg up, if_neg short, link]

/-- A name leads on to what stands under it, unless that is a link. -/
theorem advance_on (stands : files.entry? here = some (.directory listable)) (plain : ¬ (part = "" ∨ part = "."))
    (up : part ≠ "..") (short : ¬ nameLimit < Text.Utf8.byteLength part)
    (next : files.entry? (here ++ [part]) = some entry) (unlinked : ∀ target, entry ≠ .link target) :
    files.advance here (part :: parts) = files.advance (here ++ [part]) parts := by
  rw [advance, stands]
  dsimp only
  rw [if_neg plain, if_neg up, if_neg short, next]
  cases entry with
  | link target => exact absurd rfl (unlinked target)
  | file _ | locked | socket | directory _ => rfl

end

/-- Empty parts stay at a directory. -/
theorem advance_blanks {listable : Bool} (stands : files.entry? here = some (.directory listable)) {blanks : List String}
    (blank : ∀ part ∈ blanks, part = "") (rest : List String) :
    files.advance here (blanks ++ rest) = files.advance here rest := by
  induction blanks with
  | nil => rfl
  | cons part blanks ih =>
    obtain rfl := blank part (by simp)
    rw [List.cons_append, advance_stays stands (Or.inl rfl), ih fun part member => blank part (by simp [member])]

private theorem advance_blank (files : FileSystem) (here : List String) {rest : List String}
    (blank : ∀ part ∈ rest, part = "") : (∃ fault, files.advance here ("" :: rest) = .refused fault) ∨
      ∃ listable, files.advance here ("" :: rest) = .at (.taken here (.directory listable)) := by
  cases stands : files.entry? here with
  | none => exact Or.inl ⟨.missing, by simp [advance, stands]⟩
  | some entry =>
    cases entry with
    | file _ | locked | socket | link _ => exact Or.inl ⟨.notDirectory, by simp [advance, stands]⟩
    | directory listable =>
      have blanks : ∀ part ∈ "" :: rest, part = "" := List.forall_mem_cons.mpr ⟨rfl, blank⟩
      refine Or.inr ⟨listable, ?_⟩
      rw [← List.append_nil ("" :: rest), advance_blanks stands blanks, advance, stands]

/-- A path of slashes alone leads to a directory at most, which does not open. -/
theorem not_slashes_of_read {bytes : List UInt8} (opens : files.read path = .ok bytes) :
    ¬ (path = "/" ∨ path = "//") := by
  intro slashes
  obtain ⟨rest, shape, blank⟩ : ∃ rest, FileSystem.parts path = "" :: rest ∧ ∀ part ∈ rest, part = "" := by
    rcases slashes with rfl | rfl
    · exact ⟨[""], rfl, by simp⟩
    · exact ⟨["", ""], rfl, by simp⟩
  obtain ⟨place, located⟩ := read_ok_iff.mp opens
  obtain ⟨-, -, -, followed⟩ := locate_ok_iff.mp located
  rw [shape, linkLimit, FileSystem.follow] at followed
  rcases advance_blank files (if isAbsolute path then [] else files.workingDirectory) blank with
    ⟨fault, refused⟩ | ⟨listable, arrives⟩
  · simp [refused] at followed
  · simp [arrives] at followed

end IncludeGraph.Proofs.Locations
