import IncludeGraph.FileSystem.Walk
import IncludeGraph.Proofs.Paths
import Mathlib.Logic.Relation

/-! What the walk of a directory meets. It goes from directory to directory without entering a link, and either lists
them all or stops at one that cannot be listed. Its bound on the depth has no part in it: paths that deep are too
long to be listed. -/

namespace IncludeGraph.Proofs.Walks
open FileSystem Paths

/-- From a directory, given by the names that lead to it, to one that it lists. A link is not a directory here. -/
def Enters (files : FileSystem) (top : String) (outer inner : List String) : Prop :=
  ∃ entries name listable, files.list (pathBelow top outer) = .ok entries ∧ (name, .directory listable) ∈ entries ∧
    inner = outer ++ [name]

/-- A directory below another one, or the other one itself, reached without entering a link. -/
def Reached (files : FileSystem) (top : String) (names : List String) : Prop :=
  Relation.ReflTransGen (Enters files top) [] names

def Holds (files : FileSystem) (top : String) (names : List String) (name : String) : Prop :=
  ∃ entries entry, files.list (pathBelow top names) = .ok entries ∧ (name, entry) ∈ entries ∧
    (∀ listable, entry ≠ .directory listable) ∧ (∀ target, entry ≠ .link target) ∧
    files.isFile (pathBelow top (names ++ [name])) = true

variable {files : FileSystem} {top path name : String} {names origin : List String}
  {entries : List (String × Entry)} {entry : Entry}

/-- A directory lists what stands at the places right below its own, as it stands there: a link is listed as a link. -/
private theorem mem_listed_iff (listed : files.list path = .ok entries) :
    ∃ place, files.locate path = .ok (.taken place (.directory true)) ∧
      ∀ name entry, (name, entry) ∈ entries ↔ isName name = true ∧ files.entry? (place ++ [name]) = some entry := by
  simp only [list] at listed
  split at listed
  next => cases listed
  next place located =>
    obtain rfl := Except.ok.inj listed
    refine ⟨place, located, fun name entry => ?_⟩
    rw [List.mem_filterMap]
    constructor
    · rintro ⟨other, inside, same⟩
      obtain ⟨_, stored, equal⟩ := Option.map_eq_some_iff.mp same
      obtain ⟨rfl, rfl⟩ := Prod.mk.inj equal
      obtain ⟨key, -, last⟩ := List.mem_filterMap.mp (Text.mem_ascending.mp inside)
      split at last
      next => exact ⟨(Option.filter_eq_some_iff.mp last).2, stored⟩
      next => cases last
    · rintro ⟨valid, stored⟩
      have key : place ++ [name] ∈ files.entries.keys := by
        simp only [ entry?] at stored
        split at stored
        next value found => exact (Table.mem_keys_iff _ _).mpr ⟨value, found⟩
        next => simp at stored
      refine ⟨name, Text.mem_ascending.mpr (List.mem_filterMap.mpr ⟨_, key, ?_⟩), by simp [stored]⟩
      simp [valid]
  all_goals cases listed

theorem isName_of_listed (listed : files.list path = .ok entries) (member : (name, entry) ∈ entries) :
    isName name = true := by
  obtain ⟨place, -, entries⟩ := mem_listed_iff listed
  exact ((entries name entry).mp member).1

theorem isName_of_reached (valid : ∀ name ∈ origin, isName name = true)
    (reached : Relation.ReflTransGen (Enters files top) origin names) : ∀ name ∈ names, isName name = true := by
  induction reached with
  | refl => exact valid
  | tail _ enters ih =>
    obtain ⟨entries, last, listable, listed, member, rfl⟩ := enters
    intro name inside
    rcases List.mem_append.mp inside with before | final
    · exact ih name before
    · rw [List.mem_singleton.mp final]
      exact isName_of_listed listed member

private theorem length_lt_of_listed (listed : files.list path = .ok entries) : path.toList.length < pathLimit := by
  cases located : files.locate path with
  | error fault => simp [list, located] at listed
  | ok place => exact length_lt_of_located located

def foundAt (top : String) (names : List String) : Found := ⟨relativePath names, pathBelow top names⟩

/-- What the survey of a directory tells of the directories and files below it. A survey that was stopped names the
directory that could not be listed, and one that was not has found all. -/
structure Charts (files : FileSystem) (top : String) (origin : List String) (survey : Survey) : Prop where
  refused : ∀ path fault, survey.stopped = some (path, fault) → ∃ names,
    Relation.ReflTransGen (Enters files top) origin names ∧ path = pathBelow top names ∧
      files.list path = .error fault
  listed : survey.stopped = none → ∀ names, Relation.ReflTransGen (Enters files top) origin names →
    ∃ entries, files.list (pathBelow top names) = .ok entries
  found : survey.stopped = none → ∀ file, file ∈ survey.files ↔ ∃ names name,
    Relation.ReflTransGen (Enters files top) origin names ∧ Holds files top names name ∧
      file = foundAt top (names ++ [name])

private theorem stopped_foldl_eq_none {surveys : List Survey} {first : Survey}
    (ends : (surveys.foldl Survey.andThen first).stopped = none) :
    first.stopped = none ∧ (∀ survey ∈ surveys, survey.stopped = none) ∧
      (surveys.foldl Survey.andThen first).files = first.files ++ surveys.flatMap (·.files) := by
  induction surveys generalizing first with
  | nil => exact ⟨ends, by simp, by simp⟩
  | cons survey rest ih =>
    rw [List.foldl_cons] at ends ⊢
    obtain ⟨joined, others, files⟩ := ih ends
    cases start : first.stopped with
    | some refusal => simp [Survey.andThen, start] at joined
    | none =>
      simp only [Survey.andThen, start] at joined files ⊢
      refine ⟨trivial, ?_, by simp [files]⟩
      intro other member
      rcases List.mem_cons.mp member with rfl | later
      · exact joined
      · exact others other later

private theorem stopped_foldl_eq_some {surveys : List Survey} {first : Survey} {refusal : String × Fault}
    (ends : (surveys.foldl Survey.andThen first).stopped = some refusal) :
    first.stopped = some refusal ∨ ∃ survey ∈ surveys, survey.stopped = some refusal := by
  induction surveys generalizing first with
  | nil => exact Or.inl ends
  | cons survey rest ih =>
    rw [List.foldl_cons] at ends
    rcases ih ends with joined | ⟨other, member, stopped⟩
    · cases start : first.stopped with
      | some earlier => exact Or.inl (by simpa [Survey.andThen, start] using joined)
      | none => exact Or.inr ⟨survey, by simp, by simpa [Survey.andThen, start] using joined⟩
    · exact Or.inr ⟨other, List.mem_cons_of_mem _ member, stopped⟩

def filesIn (files : FileSystem) (top : String) (names : List String) (entries : List (String × Entry)) : List Found :=
  entries.filterMap fun (name, entry) =>
    match entry with
    | .directory _ | .link _ => none
    | _ =>
      if files.isFile (pathBelow top (names ++ [name])) then some (foundAt top (names ++ [name])) else none

theorem mem_filesIn (listed : files.list (pathBelow top origin) = .ok entries) (file : Found) :
    file ∈ filesIn files top origin entries ↔
      ∃ name, Holds files top origin name ∧ file = foundAt top (origin ++ [name]) := by
  rw [filesIn, List.mem_filterMap]
  constructor
  · rintro ⟨⟨name, entry⟩, member, same⟩
    have told : ∀ (_ : ∀ listable, entry ≠ .directory listable) (_ : ∀ target, entry ≠ .link target),
        (if files.isFile (pathBelow top (origin ++ [name])) then some (foundAt top (origin ++ [name])) else none) =
          some file → ∃ name, Holds files top origin name ∧ file = foundAt top (origin ++ [name]) := by
      intro directory link equal
      split at equal
      next regular =>
        exact ⟨name, ⟨entries, entry, listed, member, directory, link, regular⟩, (Option.some.inj equal).symm⟩
      next => cases equal
    cases entry with
    | directory _ | link _ => cases same
    | file _ | locked | socket => exact told (by simp) (by simp) same
  · rintro ⟨name, ⟨others, entry, same, member, directory, link, regular⟩, rfl⟩
    obtain rfl := Except.ok.inj (listed.symm.trans same)
    refine ⟨(name, entry), member, ?_⟩
    cases entry with
    | directory listable => exact absurd rfl (directory listable)
    | link target => exact absurd rfl (link target)
    | file _ | locked | socket => simp [regular]

def surveysBelow (below : String → Survey) (entries : List (String × Entry)) : List Survey :=
  entries.map fun (name, entry) =>
    match entry with
    | .directory _ => below name
    | _ => {}

private theorem mem_surveysBelow (below : String → Survey) {listable : Bool}
    (member : (name, .directory listable) ∈ entries) :
    below name ∈ surveysBelow below entries :=
  List.mem_map.mpr ⟨_, member, rfl⟩

private theorem surveysBelow_cases {below : String → Survey} {survey : Survey}
    (member : survey ∈ surveysBelow below entries) :
    survey = {} ∨ ∃ name listable, (name, .directory listable) ∈ entries ∧ survey = below name := by
  obtain ⟨⟨name, entry⟩, inside, rfl⟩ := List.mem_map.mp member
  cases entry with
  | directory listable => exact Or.inr ⟨name, listable, inside, rfl⟩
  | file _ | locked | socket | link _ => exact Or.inl rfl

/-- A directory that is listed: its own files, and behind them what the surveys of its subdirectories tell. -/
private theorem Charts.join (listed : files.list (pathBelow top origin) = .ok entries) {below : String → Survey}
    (inner : ∀ name listable, (name, .directory listable) ∈ entries →
      Charts files top (origin ++ [name]) (below name)) :
    Charts files top origin
      ((surveysBelow below entries).foldl Survey.andThen { files := filesIn files top origin entries }) := by
  have enters : ∀ name listable, (name, .directory listable) ∈ entries → Enters files top origin (origin ++ [name]) :=
    fun name listable member => ⟨entries, name, listable, listed, member, rfl⟩
  refine ⟨?_, ?_, ?_⟩
  · intro path fault stopped
    rcases stopped_foldl_eq_some stopped with own | ⟨survey, member, refused⟩
    · cases own
    · rcases surveysBelow_cases member with rfl | ⟨name, listable, inside, rfl⟩
      · cases refused
      · obtain ⟨names, reached, same, refusal⟩ := (inner name listable inside).refused path fault refused
        exact ⟨names, .head (enters name listable inside) reached, same, refusal⟩
  · intro ends names reached
    obtain ⟨-, through, -⟩ := stopped_foldl_eq_none ends
    -- What is reached is the directory itself, or lies behind a subdirectory that it lists.
    rcases reached.cases_head with rfl | ⟨next, ⟨others, name, listable, same, member, rfl⟩, further⟩
    · exact ⟨entries, listed⟩
    · obtain rfl := Except.ok.inj (listed.symm.trans same)
      exact (inner name listable member).listed (through _ (mem_surveysBelow _ member)) names further
  · intro ends file
    obtain ⟨-, through, all⟩ := stopped_foldl_eq_none ends
    rw [all, List.mem_append, mem_filesIn listed, List.mem_flatMap]
    constructor
    · rintro (⟨name, holds, rfl⟩ | ⟨survey, member, inside⟩)
      · exact ⟨origin, name, .refl, holds, rfl⟩
      · rcases surveysBelow_cases member with rfl | ⟨name, listable, there, rfl⟩
        · cases inside
        · obtain ⟨names, last, reached, holds, same⟩ :=
            ((inner name listable there).found (through _ member) file).mp inside
          exact ⟨names, last, .head (enters name listable there) reached, holds, same⟩
    · rintro ⟨names, last, reached, holds, rfl⟩
      rcases reached.cases_head with rfl | ⟨next, ⟨others, name, listable, same, member, rfl⟩, further⟩
      · exact Or.inl ⟨last, holds, rfl⟩
      · obtain rfl := Except.ok.inj (listed.symm.trans same)
        have survey := mem_surveysBelow below member
        have found := (inner name listable member).found (through _ survey) (foundAt top (names ++ [last]))
        exact Or.inr ⟨_, survey, found.mpr ⟨names, last, further, holds, rfl⟩⟩

/-- The walk from a directory that is listed, with the paths of its entries spelled by their names. -/
private theorem walkFrom_of_listed {depth : Nat} (valid : ∀ name ∈ origin, isName name = true)
    (listed : files.list (pathBelow top origin) = .ok entries) :
    files.walkFrom (depth + 1) (foundAt top origin) =
      (surveysBelow (fun name => files.walkFrom depth (foundAt top (origin ++ [name]))) entries).foldl Survey.andThen
        { files := filesIn files top origin entries } := by
  have relative : ∀ entry ∈ entries, Path.join (relativePath origin) entry.1 = relativePath (origin ++ [entry.1]) :=
    fun _ member => (relativePath_concat valid (isName_of_listed listed member)).symm
  have whole : ∀ entry ∈ entries, Path.join (pathBelow top origin) entry.1 = pathBelow top (origin ++ [entry.1]) :=
    fun _ member => (pathBelow_concat top valid (isName_of_listed listed member)).symm
  simp only [walkFrom, foundAt, listed]
  congr 1
  · congr 1
    refine List.filterMap_congr fun ⟨name, entry⟩ member => ?_
    cases entry <;> simp only [relative _ member, whole _ member, foundAt]
  · refine List.map_congr_left fun ⟨name, entry⟩ member => ?_
    cases entry <;> simp only [relative _ member, whole _ member]

/-- Wherever a walk begins, the depth it is given is never used up: every step makes the path longer, and a path as
long as the limit is not listed. -/
theorem walkFrom_charts (depth : Nat) (valid : ∀ name ∈ origin, isName name = true) (positive : 0 < depth)
    (room : pathLimit < (pathBelow top origin).toList.length + depth) :
    Charts files top origin (files.walkFrom depth (foundAt top origin)) := by
  induction depth generalizing origin with
  | zero => omega
  | succ depth ih =>
    cases listed : files.list (pathBelow top origin) with
    | error fault =>
      have stops : files.walkFrom (depth + 1) (foundAt top origin) =
          { stopped := some (pathBelow top origin, fault) } := by
        simp only [walkFrom, foundAt, listed]
      rw [stops]
      refine ⟨?_, fun ends => (nomatch ends), fun ends => (nomatch ends)⟩
      intro path other stopped
      obtain ⟨rfl, rfl⟩ := Prod.mk.inj (Option.some.inj stopped)
      exact ⟨origin, .refl, rfl, listed⟩
    | ok entries =>
      rw [walkFrom_of_listed valid listed]
      apply Charts.join listed
      intro name listable member
      have named := isName_of_listed listed member
      have short := length_lt_of_listed listed
      have longer := length_pathBelow_lt top valid named
      -- A subdirectory has a longer path, so that what is lost in depth is made up for in length.
      apply ih
      · intro other inside
        rcases List.mem_append.mp inside with before | last
        · exact valid other before
        · rwa [List.mem_singleton.mp last]
      · omega
      · omega

/-- A walk tells of all directories that are reached from its top, and of all files that they hold. -/
theorem walk_charts (files : FileSystem) (nonempty : top ≠ "") : Charts files top [] (files.walk top) := by
  have length : 0 < top.toList.length := by
    apply List.length_pos_iff.mpr
    exact fun empty => nonempty (String.toList_eq_nil_iff.mp empty)
  exact walkFrom_charts pathLimit (by simp) (by decide) (by simp only [pathBelow, if_true]; omega)

end IncludeGraph.Proofs.Walks
