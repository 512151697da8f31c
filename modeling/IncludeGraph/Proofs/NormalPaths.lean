import IncludeGraph.Proofs.Paths
import IncludeGraph.Traversal.Process
import Mathlib.Data.List.Induction

/-! Paths in normal form. Collapsing a path brings it into this form and leaves a path alone that has it, and the paths
of directories, entries and companions keep it. A stem with a suffix is never one of the names made of dots. -/

namespace IncludeGraph.Proofs.NormalPaths
open FileSystem Paths

/-- One slash or two, and below them names with single slashes in between. Making a path absolute gives such a path,
and leaves it as it is from then on. -/
def Normal (path : String) : Prop :=
  ∃ root names, (root = "/" ∨ root = "//") ∧ (∀ name ∈ names, isName name = true) ∧ path = pathBelow root names

variable {name path root suffix : String} {names : List String}

section
variable {word : List Char} {words kept : List (List Char)}

theorem split_ne_nil (text : List Char) : Path.split text ≠ [] := by
  unfold Path.split
  split
  · simp
  split
  · simp
  · split <;> simp

theorem split_append (first rest : List Char) :
    Path.split (first ++ '/' :: rest) = Path.split first ++ Path.split rest := by
  induction first with
  | nil => simp [Path.split]
  | cons c first ih =>
    by_cases slash : c = '/'
    · simp [Path.split, slash, ih]
    · obtain ⟨head, parts, shape⟩ := List.exists_cons_of_ne_nil (split_ne_nil first)
      simp [Path.split, slash, ih, shape]

theorem split_of_slashless (slashless : '/' ∉ word) : Path.split word = [word] := by
  induction word with
  | nil => rfl
  | cons c rest ih =>
    have different : c ≠ '/' := (List.ne_of_not_mem_cons slashless).symm
    simp [Path.split, different, ih (List.not_mem_of_not_mem_cons slashless)]

private theorem slash_not_mem_of_mem_split {text : List Char} (listed : word ∈ Path.split text) : '/' ∉ word := by
  induction text generalizing word with
  | nil =>
    obtain rfl := List.mem_singleton.mp listed
    simp
  | cons c rest ih =>
    obtain ⟨head, parts, shape⟩ := List.exists_cons_of_ne_nil (split_ne_nil rest)
    by_cases slash : c = '/'
    · simp only [Path.split, slash, if_true, List.mem_cons] at listed
      rcases listed with rfl | later
      · simp
      · exact ih later
    · simp only [Path.split, slash, if_false, shape, List.mem_cons] at listed ih
      rcases listed with rfl | later
      · exact List.not_mem_cons_of_ne_of_not_mem (Ne.symm slash) (ih (Or.inl rfl))
      · exact ih (Or.inr later)

/-- What collapsing keeps of the parts of a path are names. -/
private theorem isName_of_pushed (slashless : ∀ word ∈ words, '/' ∉ word)
    (valid : ∀ word ∈ kept, isName (String.ofList word) = true) :
    ∀ word ∈ words.foldl Path.pushPart kept, isName (String.ofList word) = true := by
  induction words generalizing kept with
  | nil => exact valid
  | cons part rest ih =>
    apply ih fun word member => slashless word (List.mem_cons_of_mem _ member)
    unfold Path.pushPart
    split
    · exact valid
    next plain =>
      split
      · exact fun word member => valid word (List.mem_of_mem_tail member)
      next dots =>
        obtain ⟨filled, dot⟩ := not_or.mp plain
        refine List.forall_mem_cons.mpr ⟨isName_iff.mpr ?_, valid⟩
        rw [String.toList_ofList]
        exact ⟨filled, dot, dots, slashless part (by simp)⟩

theorem isName_of_names {text : List Char} (member : word ∈ Path.names text) : isName (String.ofList word) = true :=
  isName_of_pushed (fun _ => slash_not_mem_of_mem_split) (by simp) word (List.mem_reverse.mp member)

end

private theorem pushPart_of_isName (valid : isName name = true) (kept : List (List Char)) :
    Path.pushPart kept name.toList = name.toList :: kept := by
  obtain ⟨filled, dot, dots, -⟩ := isName_iff.mp valid
  rw [Path.pushPart, if_neg (not_or.mpr ⟨filled, dot⟩), if_neg dots]

theorem names_append (first rest : List Char) : Path.names (first ++ '/' :: rest) =
    ((Path.split rest).foldl Path.pushPart (Path.names first).reverse).reverse := by
  simp only [Path.names, split_append, List.foldl_append, List.reverse_reverse]

/-- A name that is joined to a path is its last name. -/
private theorem names_join (directory : String) (valid : isName name = true) :
    Path.names (Path.join directory name).toList = Path.names directory.toList ++ [name.toList] := by
  have single : Path.split name.toList = [name.toList] := split_of_slashless (slash_not_mem_of_isName valid)
  have behind : ∀ before, Path.names (before ++ '/' :: name.toList) = Path.names before ++ [name.toList] := by
    intro before
    rw [names_append, single, List.foldl_cons, List.foldl_nil, pushPart_of_isName valid, List.reverse_cons,
      List.reverse_reverse]
  rw [toList_join directory (head_ne_slash_of_isName valid)]
  split
  next ends =>
    cases last : directory.toList.getLast? with
    | none =>
      rw [List.getLast?_eq_none_iff.mp last, List.nil_append, List.nil_append, Path.names, single, List.foldl_cons,
        List.foldl_nil, pushPart_of_isName valid]
      rfl
    | some c =>
      obtain ⟨before, shape⟩ := List.getLast?_eq_some_iff.mp last
      obtain rfl : c = '/' := by simpa [last] using ends
      have front : Path.names (before ++ ['/']) = Path.names before := by
        rw [names_append]
        simp [Path.split, Path.pushPart]
      rw [shape, front, List.append_nil, List.append_assoc, List.singleton_append, behind]
  · rw [List.append_assoc, List.singleton_append, behind]

theorem names_pathBelow (slashes : root = "/" ∨ root = "//") (valid : ∀ name ∈ names, isName name = true) :
    Path.names (pathBelow root names).toList = names.map String.toList := by
  induction names using List.reverseRecOn with
  | nil => rcases slashes with rfl | rfl <;> rfl
  | append_singleton names name ih =>
    have last : isName name = true := valid name (by simp)
    have front : ∀ name ∈ names, isName name = true := fun other member => valid other (by simp [member])
    rw [pathBelow_concat root front last, names_join _ last, ih front, List.map_append, List.map_singleton]

private theorem head_relativePath_ne_slash (valid : ∀ name ∈ names, isName name = true) :
    (relativePath names).toList.head? ≠ some '/' := by
  cases names with
  | nil => simp [relativePath]
  | cons first rest =>
    have plain := head_ne_slash_of_isName (valid first (by simp))
    have filled : first.toList ≠ [] := (isName_iff.mp (valid first (by simp))).1
    cases rest with
    | nil => simpa [relativePath] using plain
    | cons second rest =>
      rw [relativePath, String.intercalate_cons_cons, String.toList_append, String.toList_append, List.append_assoc,
        List.head?_append_of_ne_nil _ filled]
      exact plain

private theorem toList_pathBelow (slashes : root = "/" ∨ root = "//") (valid : ∀ name ∈ names, isName name = true) :
    (pathBelow root names).toList = root.toList ++ List.intercalate ['/'] (names.map String.toList) := by
  by_cases first : names = []
  · simp [pathBelow, first]
  · have closed : root.toList.getLast?.all (· = '/') = true := by rcases slashes with rfl | rfl <;> rfl
    rw [pathBelow, if_neg first, toList_join root (head_relativePath_ne_slash valid), closed, if_pos rfl,
      List.append_nil, relativePath, String.toList_intercalate]
    rfl

private theorem rootSlashes_append (slashes : root = "/" ∨ root = "//") {rest : List Char}
    (plain : rest.head? ≠ some '/') : Path.rootSlashes (root.toList ++ rest) = root.toList := by
  cases rest with
  | nil => rcases slashes with rfl | rfl <;> rfl
  | cons c rest =>
    have different : c ≠ '/' := by simpa using plain
    rcases slashes with rfl | rfl <;> simp [Path.rootSlashes, different]

theorem collapse_of_normal (normal : Normal path) : Path.collapse path = path := by
  obtain ⟨root, names, slashes, valid, rfl⟩ := normal
  have plain : (List.intercalate ['/'] (names.map String.toList)).head? ≠ some '/' := by
    have relative := head_relativePath_ne_slash valid
    rwa [relativePath, String.toList_intercalate] at relative
  apply String.ext
  rw [Path.collapse, names_pathBelow slashes valid, toList_pathBelow slashes valid, rootSlashes_append slashes plain,
    String.toList_ofList]

theorem rootSlashes_cases (text : List Char) : Path.rootSlashes text = ['/'] ∨ Path.rootSlashes text = ['/', '/'] := by
  unfold Path.rootSlashes
  split <;> simp

theorem normal_collapse (path : String) : Normal (Path.collapse path) := by
  have valid : ∀ name ∈ (Path.names path.toList).map String.ofList, isName name = true := by
    intro name member
    obtain ⟨word, kept, rfl⟩ := List.mem_map.mp member
    exact isName_of_names kept
  have slashes : String.ofList (Path.rootSlashes path.toList) = "/" ∨
      String.ofList (Path.rootSlashes path.toList) = "//" := by
    rcases rootSlashes_cases path.toList with one | two
    · exact Or.inl (by rw [one])
    · exact Or.inr (by rw [two])
  refine ⟨_, _, slashes, valid, ?_⟩
  apply String.ext
  rw [toList_pathBelow slashes valid, Path.collapse, String.toList_ofList, String.toList_ofList, List.map_map]
  simp [Function.comp_def]

theorem head_of_normal (normal : Normal path) : path.toList.head? = some '/' := by
  obtain ⟨root, names, slashes, valid, rfl⟩ := normal
  rw [toList_pathBelow slashes valid]
  rcases slashes with rfl | rfl <;> rfl

theorem head_join (absolute : path.toList.head? = some '/') (name : String) :
    (Path.join path name).toList.head? = some '/' := by
  obtain ⟨rest, shape⟩ := List.head?_eq_some_iff.mp absolute
  unfold Path.join
  split
  next alone => exact alone
  split
  · simp [shape]
  · simp [shape]

theorem normal_absolute (directory path : String) : Normal (Path.absolute directory path) := normal_collapse _

/-- Exactly the paths in normal form are left alone when they are made absolute, in whatever directory. -/
theorem absolute_eq_self_iff (directory : String) : Path.absolute directory path = path ↔ Normal path := by
  constructor
  · intro same
    rw [← same]
    exact normal_absolute directory path
  · intro normal
    rw [Path.absolute, Path.join, if_pos (head_of_normal normal), collapse_of_normal normal]

theorem normal_join (normal : Normal path) (valid : isName name = true) : Normal (Path.join path name) := by
  obtain ⟨root, names, slashes, names_valid, rfl⟩ := normal
  refine ⟨root, names ++ [name], slashes, ?_, (pathBelow_concat root names_valid valid).symm⟩
  intro other member
  rcases List.mem_append.mp member with before | last
  · exact names_valid other before
  · rwa [List.mem_singleton.mp last]

theorem normal_pathBelow (normal : Normal path) (valid : ∀ name ∈ names, isName name = true) :
    Normal (pathBelow path names) := by
  induction names using List.reverseRecOn with
  | nil => exact normal
  | append_singleton names name ih =>
    have front : ∀ name ∈ names, isName name = true := fun other member => valid other (by simp [member])
    rw [pathBelow_concat path front (valid name (by simp))]
    exact normal_join (ih front) (valid name (by simp))

/-- A path in normal form is a root, or a name joined to the path of its directory. -/
private theorem normal_cases (normal : Normal path) : (path = "/" ∨ path = "//") ∨
    ∃ directory name, Normal directory ∧ isName name = true ∧ path = Path.join directory name := by
  obtain ⟨root, names, slashes, valid, rfl⟩ := normal
  rcases List.eq_nil_or_concat' names with rfl | ⟨front, last, rfl⟩
  · exact Or.inl slashes
  · have before : ∀ name ∈ front, isName name = true := fun other member => valid other (by simp [member])
    have final : isName last = true := valid last (by simp)
    exact Or.inr ⟨pathBelow root front, last, ⟨root, front, slashes, before, rfl⟩, final,
      pathBelow_concat root before final⟩

theorem dirname_join (normal : Normal path) (valid : isName name = true) :
    Path.dirname (Path.join path name) = path := by
  have plain := ne_of_mem_reverse (slash_not_mem_of_isName valid)
  rcases normal_cases normal with slashes | ⟨directory, last, -, named, rfl⟩
  · have whole : (Path.join path name).toList = path.toList ++ name.toList := by
      rw [toList_join path (head_ne_slash_of_isName valid)]
      rcases slashes with rfl | rfl <;> rfl
    rw [Path.dirname, whole, List.reverse_append, List.dropWhile_append_of_pos plain]
    rcases slashes with rfl | rfl <;> rfl
  · have filled : last.toList ≠ [] := (isName_iff.mp named).1
    obtain ⟨front, final, shape⟩ : ∃ front final, last.toList = front ++ [final] :=
      ⟨_, _, (List.dropLast_append_getLast filled).symm⟩
    have different : final ≠ '/' := by
      rintro rfl
      exact slash_not_mem_of_isName named (by simp [shape])
    obtain ⟨before, ending⟩ : ∃ before, (Path.join directory last).toList = before ++ [final] := by
      rw [toList_join directory (head_ne_slash_of_isName named), shape, ← List.append_assoc]
      exact ⟨_, rfl⟩
    have whole : (Path.join (Path.join directory last) name).toList = before ++ [final] ++ '/' :: name.toList := by
      rw [toList_join _ (head_ne_slash_of_isName valid), ending]
      simp [different]
    apply String.ext
    rw [Path.dirname, whole, List.reverse_append, List.reverse_cons, List.append_assoc,
      List.dropWhile_append_of_pos plain, ending]
    simp [different]

theorem normal_dirname (normal : Normal path) : Normal (Path.dirname path) := by
  rcases normal_cases normal with (rfl | rfl) | ⟨directory, name, above, valid, rfl⟩
  · exact ⟨"/", [], Or.inl rfl, by simp, rfl⟩
  · exact ⟨"//", [], Or.inr rfl, by simp, rfl⟩
  · rwa [dirname_join above valid]

theorem head_companionPath (normal : Normal path) (suffix : String) :
    (Traversal.companionPath path suffix).toList.head? = some '/' :=
  head_join (head_of_normal (normal_dirname normal)) _

/-- A stem is a whole name, or the part of a name before a dot, which then holds something else than dots. -/
private theorem stem_cases (name : List Char) : (Path.cutExtension name).1 = name ∨
    (∀ c ∈ (Path.cutExtension name).1, c ∈ name) ∧ ∃ c ∈ (Path.cutExtension name).1, c ≠ '.' := by
  simp only [Path.cutExtension]
  split
  · exact Or.inl rfl
  next dot stem cut =>
    split
    · exact Or.inl rfl
    next letters =>
      refine Or.inr ⟨?_, ?_⟩
      · intro c member
        have inside : c ∈ name.reverse.dropWhile (· ≠ '.') := by
          rw [cut]
          exact List.mem_cons_of_mem _ (List.mem_reverse.mp member)
        exact List.mem_reverse.mp ((List.dropWhile_suffix _).subset inside)
      · simpa using letters

private theorem isName_stem_append (valid : isName name = true) (slashless : '/' ∉ suffix.toList) :
    isName (String.ofList (Path.cutExtension name.toList).1 ++ suffix) = true := by
  obtain ⟨filled, dot, dots, plain⟩ := isName_iff.mp valid
  rw [isName_iff, String.toList_append, String.toList_ofList, List.mem_append, not_or]
  rcases stem_cases name.toList with whole | ⟨part, c, member, letter⟩
  · rw [whole]
    refine ⟨?_, ?_, ?_, plain, slashless⟩
    all_goals
      intro same
      rcases shape : name.toList with _ | ⟨first, rest⟩
      · exact filled shape
      · simp_all [List.append_eq_cons_iff]
  · have other : ∀ text : List Char, (∀ c ∈ text, c = '.') → (Path.cutExtension name.toList).1 ++ suffix.toList ≠ text := by
      rintro text only rfl
      exact letter (only c (List.mem_append_left _ member))
    exact ⟨other _ (by simp), other _ (by simp), other _ (by simp), fun slash => plain (part _ slash), slashless⟩

theorem normal_companionPath (normal : Normal path) (named : ¬ (path = "/" ∨ path = "//"))
    (slashless : '/' ∉ suffix.toList) : Normal (Traversal.companionPath path suffix) := by
  rcases normal_cases normal with slashes | ⟨directory, name, above, valid, rfl⟩
  · exact absurd slashes named
  · rw [Traversal.companionPath, dirname_join above valid, Path.stem, basename_join directory valid]
    exact normal_join above (isName_stem_append valid slashless)

end IncludeGraph.Proofs.NormalPaths
