import IncludeGraph.Proofs.Locations

/-! Collapsed paths and what they lead to. A walk without links goes down a name and back again where the path has two
dots behind it, so that the collapsed path, which has neither, leads to the same place. It can only lead further, since
the walk that it saves may be refused. -/

namespace IncludeGraph.Proofs.CollapsedPaths
open FileSystem Traversal Paths NormalPaths Locations

/-- A place that a walk from the root reaches name by name: all above it are directories, and each name is one that is
walked along. -/
inductive Straight (files : FileSystem) : List String → Prop where
  | root : Straight files []
  | deeper {place name listable} (above : Straight files place)
    (stands : files.entry? place = some (.directory listable)) (plain : ¬ (name = "" ∨ name = ".")) (up : name ≠ "..")
    (short : ¬ nameLimit < Text.Utf8.byteLength name) : Straight files (place ++ [name])

variable {files : FileSystem} {here parts place : List String} {path : String} {entry : Entry} {bytes : List UInt8}

private theorem Straight.dropLast (straight : Straight files place) : Straight files place.dropLast := by
  cases straight with
  | root => exact .root
  | deeper above =>
    rw [List.dropLast_concat]
    exact above

/-- Wherever a walk goes, its place could be reached without any turn. -/
private theorem straight_of_advance (linkless : Linkless files) (straight : Straight files here)
    (arrives : files.advance here parts = .at (.taken place entry)) :
    Straight files place ∧ files.entry? place = some entry := by
  fun_induction FileSystem.advance files here parts with
  | case1 here found stands =>
    obtain ⟨rfl, rfl⟩ := Place.taken.inj (Arrival.at.inj arrives)
    exact ⟨straight, stands⟩
  | case2 | case3 | case6 | case7 | case8 | case11 => cases arrives
  | case4 here part rest listable stands stays ih => exact ih straight arrives
  | case5 here rest listable stands plain ih => exact ih straight.dropLast arrives
  | case9 here part rest listable stands plain up short target link => exact absurd link (linkless _ _)
  | case10 here part rest listable stands plain up short other next link ih =>
    exact ih (.deeper straight stands plain up short) arrives

private theorem advance_straight (linkless : Linkless files) (straight : Straight files place)
    (stands : files.entry? place = some entry) (rest : List String) :
    files.advance [] (place ++ rest) = files.advance place rest := by
  induction straight generalizing entry rest with
  | root => rfl
  | @deeper place name listable above directory plain up short ih =>
    have unlinked : ∀ target, entry ≠ .link target := by
      rintro target rfl
      exact linkless _ _ stands
    rw [List.append_assoc, List.singleton_append, ih directory, advance_on directory plain up short stands unlinked]

/-- Whatever the first part is, it asks for a directory. -/
private theorem directory_of_advance {part : String} {there : Place}
    (arrives : files.advance here (part :: parts) = .at there) :
    ∃ listable, files.entry? here = some (.directory listable) := by
  cases stands : files.entry? here with
  | none => simp [advance, stands] at arrives
  | some entry =>
    cases entry with
    | directory listable => exact ⟨listable, rfl⟩
    | file _ | locked | socket | link _ => simp [advance, stands] at arrives

section
variable {word text : List Char} {words kept : List (List Char)}

theorem split_intercalate (filled : words ≠ []) (slashless : ∀ word ∈ words, '/' ∉ word) :
    Path.split (List.intercalate ['/'] words) = words := by
  induction words with
  | nil => exact absurd rfl filled
  | cons first rest ih =>
    have single := split_of_slashless (slashless first (by simp))
    cases rest with
    | nil => rw [List.intercalate_singleton, single]
    | cons second rest =>
      rw [List.intercalate_cons_cons, List.append_assoc, List.singleton_append, split_append, single,
        ih (by simp) fun word member => slashless word (List.mem_cons_of_mem _ member)]
      rfl

def weight : List (List Char) → Nat
  | [] => 0
  | word :: words => (Text.Utf8.encode word).length + 1 + weight words

private theorem length_encode_append (first second : List Char) : (Text.Utf8.encode (first ++ second)).length =
    (Text.Utf8.encode first).length + (Text.Utf8.encode second).length := by
  simp [Text.Utf8.encode]

private theorem length_encode_cons (c : Char) (text : List Char) :
    (Text.Utf8.encode (c :: text)).length = (Text.Utf8.encode [c]).length + (Text.Utf8.encode text).length :=
  length_encode_append [c] text

private theorem weight_append (first second : List (List Char)) :
    weight (first ++ second) = weight first + weight second := by
  induction first with
  | nil => exact (Nat.zero_add _).symm
  | cons word rest ih => rw [List.cons_append, weight, weight, ih, ← Nat.add_assoc]

private theorem weight_reverse (words : List (List Char)) : weight words.reverse = weight words := by
  induction words with
  | nil => rfl
  | cons word rest ih => rw [List.reverse_cons, weight_append, ih, Nat.add_comm, weight, weight, weight, Nat.add_zero]

private theorem weight_split (text : List Char) : weight (Path.split text) = (Text.Utf8.encode text).length + 1 := by
  induction text with
  | nil => rfl
  | cons c rest ih =>
    have slashed : (Text.Utf8.encode ['/']).length = 1 := rfl
    rw [length_encode_cons, Path.split]
    split
    next slash =>
      subst slash
      rw [weight, ih, slashed]
      rfl
    · obtain ⟨part, parts, shape⟩ := List.exists_cons_of_ne_nil (split_ne_nil rest)
      rw [shape, weight] at ih
      simp only [shape, weight, length_encode_cons c part]
      omega

private theorem weight_foldl_pushPart (words kept : List (List Char)) :
    weight (words.foldl Path.pushPart kept) ≤ weight kept + weight words := by
  induction words generalizing kept with
  | nil => exact Nat.le_refl _
  | cons word rest ih =>
    have pushed : weight (Path.pushPart kept word) ≤ weight kept + ((Text.Utf8.encode word).length + 1) := by
      unfold Path.pushPart
      split
      · omega
      split
      · cases kept with
        | nil => exact Nat.zero_le _
        | cons name kept =>
          rw [List.tail_cons, weight]
          omega
      · rw [weight]
        omega
    rw [List.foldl_cons, weight]
    exact Nat.le_trans (ih _) (by omega)

private theorem length_intercalate_le (words : List (List Char)) :
    (Text.Utf8.encode (List.intercalate ['/'] words)).length ≤ weight words - 1 := by
  induction words with
  | nil => exact Nat.le_refl 0
  | cons first rest ih =>
    have slashed : (Text.Utf8.encode ['/']).length = 1 := rfl
    cases rest with
    | nil => simp [weight]
    | cons second rest =>
      rw [List.intercalate_cons_cons, length_encode_append, length_encode_append, slashed, weight]
      rw [weight] at ih ⊢
      omega

/-- Names take no more bytes than the path that has them. -/
private theorem length_names_le (text : List Char) :
    (Text.Utf8.encode (List.intercalate ['/'] (Path.names text))).length ≤ (Text.Utf8.encode text).length := by
  have kept := weight_foldl_pushPart (Path.split text) []
  have joined := length_intercalate_le (Path.names text)
  have whole := weight_split text
  have none : weight [] = 0 := rfl
  rw [Path.names, weight_reverse, ← Path.names] at joined
  omega

private theorem names_slash (text : List Char) : Path.names ('/' :: text) = Path.names text := by
  simp [Path.names, Path.split, Path.pushPart]

/-- A slash in front has no part in the names, so that it may be kept. -/
private theorem length_rooted_le (text : List Char) :
    (Text.Utf8.encode (Path.rootSlashes ('/' :: text) ++ List.intercalate ['/'] (Path.names ('/' :: text)))).length ≤
      (Text.Utf8.encode ('/' :: text)).length := by
  have single : (Text.Utf8.encode ['/']).length = 1 := rfl
  have double : (Text.Utf8.encode ['/', '/']).length = 2 := rfl
  have names := length_names_le text
  rw [length_encode_append, length_encode_cons '/' text, names_slash, single]
  unfold Path.rootSlashes
  split
  · omega
  next rest _ same =>
    obtain rfl := (List.cons.inj same).2
    have below := length_names_le rest
    rw [names_slash, length_encode_cons '/' rest, single, double]
    omega
  · omega

end

theorem byteLength_collapse_le (absolute : path.toList.head? = some '/') :
    Text.Utf8.byteLength (Path.collapse path) ≤ Text.Utf8.byteLength path := by
  obtain ⟨rest, shape⟩ := List.head?_eq_some_iff.mp absolute
  rw [Text.Utf8.byteLength, Text.Utf8.byteLength, Path.collapse, String.toList_ofList, shape]
  exact length_rooted_le rest

/-- The parts of a collapsed path: slashes leave empty ones, and the names follow. -/
private theorem parts_collapse (path : String) : ∃ blanks, blanks ≠ [] ∧ (∀ part ∈ blanks, part = "") ∧
    FileSystem.parts (Path.collapse path) = blanks ++ (Path.names path.toList).map String.ofList := by
  have slashless : ∀ word ∈ Path.names path.toList, '/' ∉ word := by
    intro word member
    have named := slash_not_mem_of_isName (isName_of_names member)
    rwa [String.toList_ofList] at named
  rw [FileSystem.parts, Path.collapse, String.toList_ofList]
  by_cases top : Path.names path.toList = []
  · rcases rootSlashes_cases path.toList with single | double
    · exact ⟨["", ""], by simp, by simp, by rw [single, top]; rfl⟩
    · exact ⟨["", "", ""], by simp, by simp, by rw [double, top]; rfl⟩
  · rcases rootSlashes_cases path.toList with single | double
    · refine ⟨[""], by simp, by simp, ?_⟩
      rw [single, List.singleton_append, Path.split, if_pos rfl, split_intercalate top slashless]
      rfl
    · refine ⟨["", ""], by simp, by simp, ?_⟩
      rw [double, List.cons_append, List.singleton_append, Path.split, if_pos rfl, Path.split, if_pos rfl,
        split_intercalate top slashless]
      rfl

/-- Without links, a collapsed path leads where the path leads. -/
theorem locate_collapse (linkless : Linkless files) (absolute : path.toList.head? = some '/')
    (located : files.locate path = .ok (.taken place entry)) :
    files.locate (Path.collapse path) = .ok (.taken place entry) := by
  have rooted := head_of_normal (normal_collapse path)
  obtain ⟨clean, -, short, followed⟩ := locate_ok_iff.mp located
  rw [isAbsolute, absolute, if_pos (by rfl)] at followed
  have arrives := advance_of_follow linkless followed
  obtain ⟨straight, stands⟩ := straight_of_advance linkless .root arrives
  obtain ⟨listable, top⟩ : ∃ listable, files.entry? [] = some (.directory listable) := by
    obtain ⟨rest, shape⟩ := List.head?_eq_some_iff.mp absolute
    rw [FileSystem.parts, shape, Path.split, if_pos rfl, List.map_cons] at arrives
    exact directory_of_advance arrives
  obtain ⟨blanks, some, blank, spelled⟩ := parts_collapse path
  rw [locate_ok_iff]
  refine ⟨?_, ?_, ?_, ?_⟩
  · intro null
    rcases mem_collapse null with slash | inside
    · cases slash
    · exact clean inside
  · intro empty
    rw [empty] at rooted
    cases rooted
  · exact Nat.lt_of_le_of_lt (byteLength_collapse_le absolute) short
  · have names : (Path.names path.toList).map String.ofList = place := by
      rw [names_of_located linkless absolute located, List.map_map]
      simp [Function.comp_def]
    -- The collapsed path goes straight along the place where the path itself arrives in the end.
    have along : files.advance [] (blanks ++ place) = .at (.taken place entry) := by
      have walked := advance_straight linkless straight stands []
      rw [List.append_nil] at walked
      rw [advance_blanks top blank, walked, advance, stands]
    rw [isAbsolute, rooted, if_pos (by rfl), spelled, names, linkLimit, FileSystem.follow, along]

/-- Where there are no links, the path that a quoted directive means opens whenever the directory and the name do as they
are written, and opens the same file. -/
theorem candidate_opens {around : Surroundings} (linkless : Linkless around.files) {directory name : String}
    (absolute : directory.toList.head? = some '/') (opens : around.files.read (Path.join directory name) = .ok bytes) :
    around.files.read (candidate around directory name) = .ok bytes ∧
      SameFile around.files (Path.join directory name) (candidate around directory name) := by
  have rooted := head_join absolute name
  have own : candidate around directory name = Path.collapse (Path.join directory name) := by
    rw [candidate, Path.absolute, Path.join, if_pos rooted]
  obtain ⟨place, located⟩ := read_ok_iff.mp opens
  have collapsed := locate_collapse linkless rooted located
  rw [own]
  exact ⟨read_ok_iff.mpr ⟨place, collapsed⟩, place, bytes, located, collapsed⟩

/-- A file that is written with slashes, dots and a way into a directory and out of it again, past the root. -/
def maze : FileSystem :=
  ⟨["w"], ⟨[(["w"], .directory true), (["w", "x"], .directory false), (["w", "a.h"], .file [0x41])]⟩⟩

theorem candidate_opens_maze : Linkless maze ∧ "//w//x".toList.head? = some '/' ∧
    maze.read (Path.join "//w//x" ".././../../w//x/./../a.h") = .ok [0x41] ∧
    candidate ⟨maze, {}, {}⟩ "//w//x" ".././../../w//x/./../a.h" = "//w/a.h" ∧ maze.read "//w/a.h" = .ok [0x41] := by
  have linkless : Linkless maze := linkless_of_entries (by simp [maze])
  have opens : maze.read (Path.join "//w//x" ".././../../w//x/./../a.h") = .ok [0x41] := by decide +kernel
  have own : candidate ⟨maze, {}, {}⟩ "//w//x" ".././../../w//x/./../a.h" = "//w/a.h" := by decide +kernel
  obtain ⟨read, -⟩ := @candidate_opens _ ⟨maze, {}, {}⟩ linkless _ _ rfl opens
  rw [own] at read
  exact ⟨linkless, rfl, opens, own, read⟩

end IncludeGraph.Proofs.CollapsedPaths
