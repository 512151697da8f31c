import IncludeGraph.FileSystem.Basic
import IncludeGraph.Path
import Mathlib.Data.List.Basic

/-! Paths of what stands below a directory. They are put together one name at a time, and what comes of it is the
directory's path and the relative path with a slash between them. Joining, cutting and collapsing put no characters
but slashes into a path. -/

namespace IncludeGraph.Proofs.Paths
open FileSystem

variable {name : String} {names : List String}

theorem isName_iff : isName name = true ↔
    name.toList ≠ [] ∧ name.toList ≠ ['.'] ∧ name.toList ≠ ['.', '.'] ∧ '/' ∉ name.toList := by
  have spelled : ∀ text : String, name ≠ text ↔ name.toList ≠ text.toList := fun text => by simp [String.toList_inj]
  simp only [isName, Bool.and_eq_true, decide_eq_true_eq, Bool.not_eq_true', ← Bool.not_eq_true, List.contains_iff_mem,
    and_assoc, spelled]
  rfl

theorem slash_not_mem_of_isName (valid : isName name = true) : '/' ∉ name.toList := (isName_iff.mp valid).2.2.2

theorem head_ne_slash_of_isName (valid : isName name = true) : name.toList.head? ≠ some '/' := by
  intro slash
  exact slash_not_mem_of_isName valid (List.mem_of_mem_head? slash)

theorem ne_of_mem_reverse {separator : Char} {text : List Char} (free : separator ∉ text) :
    ∀ c ∈ text.reverse, decide (c ≠ separator) = true := by
  intro c member
  rw [decide_eq_true_iff]
  rintro rfl
  exact free (List.mem_reverse.mp member)

/-- What a relative path is joined with stands in front of it, with a slash if it has none at its end. -/
theorem toList_join (base : String) {path : String} (relative : path.toList.head? ≠ some '/') :
    (Path.join base path).toList =
      base.toList ++ (if base.toList.getLast?.all (· = '/') then [] else ['/']) ++ path.toList := by
  unfold Path.join
  rw [if_neg relative]
  split <;> simp

theorem join_join (base path : String) {middle : String} (nonempty : middle ≠ "") :
    Path.join (Path.join base middle) path = Path.join base (Path.join middle path) := by
  have filled : middle.toList ≠ [] := fun empty => nonempty (String.toList_eq_nil_iff.mp empty)
  by_cases absolute : path.toList.head? = some '/'
  · simp only [Path.join, absolute, if_true]
  have starts : (Path.join middle path).toList.head? = middle.toList.head? := by
    rw [toList_join middle absolute, List.append_assoc, List.head?_append_of_ne_nil _ filled]
  by_cases rooted : middle.toList.head? = some '/'
  · have alone : ∀ other : String, other.toList.head? = some '/' → Path.join base other = other := by
      intro other slash
      simp only [Path.join, slash, if_true]
    rw [alone middle rooted, alone _ (starts.trans rooted)]
  · have ends : (Path.join base middle).toList.getLast? = middle.toList.getLast? := by
      rw [toList_join base rooted, List.getLast?_append_of_ne_nil _ filled]
    apply String.ext
    rw [toList_join _ absolute, ends, toList_join base rooted, toList_join base (starts ▸ rooted),
      toList_join middle absolute]
    simp only [List.append_assoc]

/-- The last part of a path that was joined with a name is the name. -/
theorem basename_join (directory : String) (valid : isName name = true) :
    Path.basename (Path.join directory name) = name := by
  have plain := ne_of_mem_reverse (slash_not_mem_of_isName valid)
  have stops : (directory.toList ++ if directory.toList.getLast?.all (· = '/') then [] else ['/']).reverse.takeWhile
      (· ≠ '/') = [] := by
    split
    next ends =>
      cases last : directory.toList.getLast? with
      | none => simp [List.getLast?_eq_none_iff.mp last]
      | some c =>
        obtain ⟨before, shape⟩ := List.getLast?_eq_some_iff.mp last
        have slash : c = '/' := by simpa [last] using ends
        simp [shape, slash]
    · simp
  rw [Path.basename, toList_join directory (head_ne_slash_of_isName valid), List.reverse_append,
    List.takeWhile_append_of_pos plain, stops, List.append_nil, List.reverse_reverse, String.ofList_toList]

def relativePath (names : List String) : String := "/".intercalate names

def pathBelow (top : String) (names : List String) : String :=
  if names = [] then top else Path.join top (relativePath names)

theorem pathBelow_concat_eq_join (top : String) (names : List String) (name : String) :
    pathBelow top (names ++ [name]) = Path.join top (relativePath (names ++ [name])) := by
  simp [pathBelow]

theorem relativePath_append {more : List String} (first : names ≠ []) (last : more ≠ []) :
    relativePath (names ++ more) = relativePath names ++ "/" ++ relativePath more :=
  String.intercalate_append_of_ne_nil first last

private theorem getLast?_relativePath (names : List String) (valid : isName name = true) :
    (relativePath (names ++ [name])).toList.getLast? = name.toList.getLast? := by
  have filled : name.toList ≠ [] := (isName_iff.mp valid).1
  have single : relativePath [name] = name := String.intercalate_singleton
  by_cases first : names = []
  · rw [first, List.nil_append, single]
  · rw [relativePath_append first (by simp), single, String.toList_append, List.getLast?_append_of_ne_nil _ filled]

/-- One more name is joined to a relative path as to any other. -/
theorem relativePath_concat (valid : ∀ name ∈ names, isName name = true) (last : isName name = true) :
    relativePath (names ++ [name]) = Path.join (relativePath names) name := by
  have relative := head_ne_slash_of_isName last
  rcases List.eq_nil_or_concat' names with rfl | ⟨before, final, rfl⟩
  · simp [relativePath, Path.join, relative]
  · have ending : isName final = true := valid final (by simp)
    have open_ : (relativePath (before ++ [final])).toList.getLast?.all (· = '/') = false := by
      rw [getLast?_relativePath before ending]
      cases shape : final.toList.getLast? with
      | none =>
        exact absurd (List.getLast?_eq_none_iff.mp shape) (isName_iff.mp ending).1
      | some c =>
        have different : c ≠ '/' := by
          rintro rfl
          exact slash_not_mem_of_isName ending (List.mem_of_getLast? shape)
        simpa using different
    rw [relativePath_append (by simp) (by simp), Path.join, if_neg relative, open_]
    simp [relativePath]

theorem relativePath_ne_empty (names : List String) (valid : isName name = true) :
    relativePath (names ++ [name]) ≠ "" := by
  intro empty
  have last := getLast?_relativePath names valid
  rw [empty] at last
  exact (isName_iff.mp valid).1 (List.getLast?_eq_none_iff.mp last.symm)

theorem pathBelow_concat (top : String) (valid : ∀ name ∈ names, isName name = true) (last : isName name = true) :
    pathBelow top (names ++ [name]) = Path.join (pathBelow top names) name := by
  rcases List.eq_nil_or_concat' names with rfl | ⟨before, final, rfl⟩
  · simp [pathBelow, relativePath]
  · have filled := relativePath_ne_empty before (valid final (by simp))
    rw [pathBelow_concat_eq_join, pathBelow_concat_eq_join, relativePath_concat valid last, join_join _ _ filled]

theorem basename_pathBelow (top : String) (valid : ∀ name ∈ names, isName name = true) (last : isName name = true) :
    Path.basename (pathBelow top (names ++ [name])) = name := by
  rw [pathBelow_concat top valid last, basename_join _ last]

/-- The path of an entry is longer than that of its directory. -/
theorem length_pathBelow_lt (top : String) (valid : ∀ name ∈ names, isName name = true) (last : isName name = true) :
    (pathBelow top names).toList.length < (pathBelow top (names ++ [name])).toList.length := by
  have filled : 0 < name.toList.length := by
    apply List.length_pos_iff.mpr
    exact (isName_iff.mp last).1
  rw [pathBelow_concat top valid last, toList_join _ (head_ne_slash_of_isName last), List.length_append,
    List.length_append]
  omega

section
variable {c : Char} {base path : String} {word : List Char} {words : List (List Char)}

private theorem mem_of_mem_split {text : List Char} (listed : word ∈ Path.split text) (member : c ∈ word) :
    c ∈ text := by
  induction text generalizing word with
  | nil => simp_all [Path.split]
  | cons first rest ih =>
    unfold Path.split at listed
    split at listed
    · rcases List.mem_cons.mp listed with rfl | later
      · cases member
      · exact List.mem_cons_of_mem _ (ih later member)
    split at listed
    · simp_all
    next head parts shape =>
      rcases List.mem_cons.mp listed with rfl | later
      · rcases List.mem_cons.mp member with rfl | inside
        · exact List.mem_cons_self
        · exact List.mem_cons_of_mem _ (ih (by simp [shape]) inside)
      · exact List.mem_cons_of_mem _ (ih (by simp [shape, later]) member)

private theorem mem_foldl_pushPart {names : List (List Char)} (kept : word ∈ words.foldl Path.pushPart names) :
    word ∈ names ∨ word ∈ words := by
  induction words generalizing names with
  | nil => exact Or.inl kept
  | cons part rest ih =>
    rcases ih kept with pushed | later
    · unfold Path.pushPart at pushed
      split at pushed
      · exact Or.inl pushed
      split at pushed
      · exact Or.inl (List.mem_of_mem_tail pushed)
      · rcases List.mem_cons.mp pushed with rfl | old
        · exact Or.inr List.mem_cons_self
        · exact Or.inl old
    · exact Or.inr (List.mem_cons_of_mem _ later)

private theorem mem_intercalate (member : c ∈ List.intercalate ['/'] words) : c = '/' ∨ ∃ word ∈ words, c ∈ word := by
  induction words with
  | nil => simp at member
  | cons first rest ih =>
    cases rest with
    | nil => exact Or.inr ⟨first, by simp, by simpa using member⟩
    | cons second rest =>
      rw [List.intercalate_cons_cons, List.append_assoc, List.mem_append, List.mem_append, List.mem_singleton] at member
      rcases member with here | slash | later
      · exact Or.inr ⟨first, by simp, here⟩
      · exact Or.inl slash
      · obtain slash | ⟨word, listed, inside⟩ := ih later
        · exact Or.inl slash
        · exact Or.inr ⟨word, List.mem_cons_of_mem _ listed, inside⟩

theorem mem_collapse (member : c ∈ (Path.collapse path).toList) : c = '/' ∨ c ∈ path.toList := by
  rw [Path.collapse, String.toList_ofList, List.mem_append] at member
  rcases member with slash | below
  · unfold Path.rootSlashes at slash
    split at slash <;> simp_all
  · obtain slash | ⟨name, kept, inside⟩ := mem_intercalate below
    · exact Or.inl slash
    · rcases mem_foldl_pushPart (List.mem_reverse.mp kept) with none | part
      · cases none
      · exact Or.inr (mem_of_mem_split part inside)

theorem mem_join (member : c ∈ (Path.join base path).toList) : c = '/' ∨ c ∈ base.toList ∨ c ∈ path.toList := by
  unfold Path.join at member
  split at member
  · exact Or.inr (Or.inr member)
  split at member
  · simp_all
  · rw [String.toList_append, String.toList_append, List.mem_append, List.mem_append] at member
    rcases member with (front | slash) | back
    · exact Or.inr (Or.inl front)
    · exact Or.inl (List.mem_singleton.mp slash)
    · exact Or.inr (Or.inr back)

theorem mem_absolute (member : c ∈ (Path.absolute base path).toList) :
    c = '/' ∨ c ∈ base.toList ∨ c ∈ path.toList := by
  rcases mem_collapse member with slash | joined
  · exact Or.inl slash
  · exact mem_join joined

theorem mem_dirname (member : c ∈ (Path.dirname path).toList) : c ∈ path.toList := by
  have cut : c ∈ path.toList.reverse.dropWhile (· ≠ '/') := by
    simp only [Path.dirname] at member
    split at member
    · simpa using member
    · rw [String.toList_ofList, List.mem_reverse] at member
      exact (List.dropWhile_suffix _).subset member
  exact List.mem_reverse.mp ((List.dropWhile_suffix _).subset cut)

end

end IncludeGraph.Proofs.Paths
