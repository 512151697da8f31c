import IncludeGraph.CommandLine.Run
import IncludeGraph.Proofs.Paths
import Mathlib.Data.List.Forall2
import Mathlib.Data.List.TakeWhile

/-! What the declarations of include directories come to. Each is read as the directory and the shorthand that it was put
together from. They are read in order up to the first that names no directory, or that has no text at all. -/

namespace IncludeGraph.Proofs.Declarations
open IncludeDirectory CommandLine Paths

/-- Nothing stands in front of the last hash sign, or in the declaration altogether. Then there is no directory, which
is all that a declaration must have. -/
def LacksDirectory (declaration : String) : Prop :=
  declaration = "" ∨ ∃ shorthand : String, declaration = "#" ++ shorthand ∧ '#' ∉ shorthand.toList

/-- What a declaration says: a directory and its shorthand with a hash sign between them, or a directory alone that holds
no hash sign. -/
inductive Denotes : String → IncludeDirectory → Prop where
  | marked {path shorthand : String} (filled : path ≠ "") (free : '#' ∉ shorthand.toList) :
    Denotes (path ++ "#" ++ shorthand) ⟨path, shorthand⟩
  | bare {path : String} (filled : path ≠ "") (free : '#' ∉ path.toList) : Denotes path ⟨path, ""⟩

def Declares (value : Option String) (directory : IncludeDirectory) : Prop :=
  ∃ declaration, value = some declaration ∧ IncludeDirectory.parse declaration = .ok directory

/-- A declaration lacks its directory, and those before it have a text. Declarations are read in order, up to the first
that lacks the one or the other. -/
inductive Misdeclared : List (Option String) → Prop where
  | here {declaration rest} (lacks : LacksDirectory declaration) : Misdeclared (some declaration :: rest)
  | later {declaration rest} (later : Misdeclared rest) : Misdeclared (some declaration :: rest)

inductive Textless : List (Option String) → Prop where
  | here {rest} : Textless (none :: rest)
  | later {value directory rest} (declares : Declares value directory) (later : Textless rest) :
    Textless (value :: rest)

variable {separator : Char} {text before behind : List Char} {declaration : String} {directory : IncludeDirectory}
  {includes : List (Option String)}

private theorem cutLast_append (free : separator ∉ behind) :
    cutLast separator (before ++ separator :: behind) = some (before, behind) := by
  have plain := ne_of_mem_reverse free
  have shape : (before ++ separator :: behind).reverse = behind.reverse ++ separator :: before.reverse := by simp
  rw [cutLast, shape, List.dropWhile_append_of_pos plain, List.takeWhile_append_of_pos plain]
  simp

private theorem exists_last (member : separator ∈ text) :
    ∃ before behind, text = before ++ separator :: behind ∧ separator ∉ behind := by
  obtain ⟨behind, before, shape, free⟩ := List.eq_append_cons_of_mem (List.mem_reverse.mpr member)
  refine ⟨before.reverse, behind.reverse, ?_, by simpa using free⟩
  rw [← List.reverse_reverse text, shape]
  simp

private theorem cutLast_of_free (free : separator ∉ text) : cutLast separator text = none := by
  rw [cutLast, List.dropWhile_eq_nil_iff.mpr (ne_of_mem_reverse free)]

theorem lacksDirectory_iff (shape : declaration.toList = before ++ '#' :: behind) (free : '#' ∉ behind) :
    LacksDirectory declaration ↔ before = [] := by
  constructor
  · rintro (rfl | ⟨shorthand, rfl, other⟩)
    · simp at shape
    · have cut := @cutLast_append '#' [] shorthand.toList other
      have whole : [] ++ '#' :: shorthand.toList = before ++ '#' :: behind := by simpa using shape
      rw [whole, cutLast_append free] at cut
      exact (Prod.mk.inj (Option.some.inj cut)).1
  · rintro rfl
    refine Or.inr ⟨String.ofList behind, ?_, by simpa using free⟩
    apply String.ext
    rw [shape]
    simp

private theorem lacksDirectory_of_free (free : '#' ∉ declaration.toList) :
    LacksDirectory declaration ↔ declaration = "" := by
  constructor
  · rintro (rfl | ⟨shorthand, rfl, -⟩)
    · rfl
    · simp at free
  · exact Or.inl

/-- A hash sign behind which there is no other parts a declaration. -/
private theorem parse_of_cut (shape : declaration.toList = before ++ '#' :: behind) (free : '#' ∉ behind) :
    IncludeDirectory.parse declaration =
      if before = [] then .error ⟨declaration⟩ else .ok ⟨String.ofList before, String.ofList behind⟩ := by
  simp only [IncludeDirectory.parse, shape, cutLast_append free, Option.getD_some]

private theorem parse_of_free (free : '#' ∉ declaration.toList) :
    IncludeDirectory.parse declaration = if declaration = "" then .error ⟨declaration⟩ else .ok ⟨declaration, ""⟩ := by
  simp only [IncludeDirectory.parse, cutLast_of_free free, Option.getD_none, String.toList_eq_nil_iff,
    String.ofList_toList, String.ofList_nil]

/-- A declaration is refused exactly if it lacks its directory. -/
theorem parse_error_iff {fault : NoDirectory} :
    IncludeDirectory.parse declaration = .error fault ↔ LacksDirectory declaration ∧ fault = ⟨declaration⟩ := by
  by_cases hash : '#' ∈ declaration.toList
  · obtain ⟨before, behind, shape, free⟩ := exists_last hash
    rw [lacksDirectory_iff shape free, parse_of_cut shape free]
    split
    next empty => simp [empty, eq_comm]
    next filled => simp [filled]
  · rw [lacksDirectory_of_free hash, parse_of_free hash]
    split
    next empty => simp [empty, eq_comm]
    next filled => simp [filled]

/-- What is written with a hash sign is read back, whatever hash signs the directory holds itself. -/
theorem parse_marked {path shorthand : String} (filled : path ≠ "") (free : '#' ∉ shorthand.toList) :
    IncludeDirectory.parse (path ++ "#" ++ shorthand) = .ok ⟨path, shorthand⟩ := by
  have shape : (path ++ "#" ++ shorthand).toList = path.toList ++ '#' :: shorthand.toList := by simp
  have begun : path.toList ≠ [] := fun empty => filled (String.toList_eq_nil_iff.mp empty)
  rw [parse_of_cut shape free, if_neg begun, String.ofList_toList, String.ofList_toList]

private theorem parse_bare (filled : declaration ≠ "") (free : '#' ∉ declaration.toList) :
    IncludeDirectory.parse declaration = .ok ⟨declaration, ""⟩ := by
  rw [parse_of_free free, if_neg filled]

/-- A declaration is one of a directory, or it lacks the directory. -/
theorem denotes_or_lacks (declaration : String) :
    LacksDirectory declaration ∨ ∃ directory, Denotes declaration directory := by
  by_cases hash : '#' ∈ declaration.toList
  · obtain ⟨before, behind, shape, free⟩ := exists_last hash
    by_cases empty : before = []
    · exact Or.inl ((lacksDirectory_iff shape free).mpr empty)
    · have written : declaration = String.ofList before ++ "#" ++ String.ofList behind := by
        apply String.ext
        rw [shape]
        simp
      rw [written]
      exact Or.inr ⟨_, .marked (fun none => empty (String.ofList_eq_empty_iff.mp none)) (by simpa using free)⟩
  · by_cases empty : declaration = ""
    · exact Or.inl (Or.inl empty)
    · exact Or.inr ⟨_, .bare empty hash⟩

theorem parse_of_denotes (denotes : Denotes declaration directory) :
    IncludeDirectory.parse declaration = .ok directory := by
  cases denotes with
  | marked filled free => exact parse_marked filled free
  | bare filled free => exact parse_bare filled free

/-- Reading takes a declaration apart as it was put together, and refuses exactly those that lack their directory. -/
theorem parse_recovers (declaration : String) :
    (∀ path shorthand : String, path ≠ "" → '#' ∉ shorthand.toList →
      IncludeDirectory.parse (path ++ "#" ++ shorthand) = .ok ⟨path, shorthand⟩) ∧
    (∀ fault, IncludeDirectory.parse declaration = .error fault ↔
      LacksDirectory declaration ∧ fault = ⟨declaration⟩) ∧
    (¬ LacksDirectory declaration →
      ∃ directory, IncludeDirectory.parse declaration = .ok directory ∧ Denotes declaration directory) := by
  refine ⟨fun path shorthand filled free => parse_marked filled free, fun fault => parse_error_iff, ?_⟩
  intro complete
  rcases denotes_or_lacks declaration with lacks | ⟨directory, denotes⟩
  · exact absurd lacks complete
  · exact ⟨directory, parse_of_denotes denotes, denotes⟩

theorem parse_recovers_nested : "odd#dir" ≠ "" ∧ '#' ∉ "alias".toList ∧ ¬ LacksDirectory "##" ∧
    IncludeDirectory.parse ("odd#dir" ++ "#" ++ "alias") = .ok ⟨"odd#dir", "alias"⟩ ∧
    ∃ directory, IncludeDirectory.parse "##" = .ok directory ∧ Denotes "##" directory := by
  obtain ⟨recovers, -, complete⟩ := parse_recovers "##"
  have lacks : LacksDirectory "##" ↔ ['#'] = [] := @lacksDirectory_iff ['#'] [] "##" rfl (by simp)
  have filled : ¬ LacksDirectory "##" := by simp [lacks]
  have plain : '#' ∉ "alias".toList := by decide
  exact ⟨by decide, plain, filled, recovers _ _ (by decide) plain, complete filled⟩

theorem directories_of_refused {fault : NoDirectory} (refused : IncludeDirectory.parse declaration = .error fault)
    (rest : List (Option String)) : directories (some declaration :: rest) = .error (.noDirectory fault) := by
  rw [directories, refused]

theorem directories_of_parsed (parsed : IncludeDirectory.parse declaration = .ok directory)
    (rest : List (Option String)) :
    directories (some declaration :: rest) = (directories rest).map (directory :: ·) := by
  rw [directories, parsed]
  cases directories rest <;> rfl

theorem directories_declared {found : List IncludeDirectory} (declares : List.Forall₂ Declares includes found) :
    directories includes = .ok found := by
  induction declares with
  | nil => rfl
  | cons first _ ih =>
    obtain ⟨declaration, rfl, parsed⟩ := first
    rw [directories_of_parsed parsed, ih]
    rfl

theorem directories_misdeclared (misdeclared : Misdeclared includes) :
    ∃ fault, directories includes = .error (.noDirectory fault) := by
  induction misdeclared with
  | here lacks => exact ⟨_, directories_of_refused (parse_error_iff.mpr ⟨lacks, rfl⟩) _⟩
  | @later declaration rest _ ih =>
    obtain ⟨fault, failed⟩ := ih
    cases parsed : IncludeDirectory.parse declaration with
    | error other => exact ⟨other, directories_of_refused parsed _⟩
    | ok directory =>
      rw [directories_of_parsed parsed, failed]
      exact ⟨fault, rfl⟩

theorem directories_textless (textless : Textless includes) : directories includes = .error .noText := by
  induction textless with
  | here => rfl
  | later declares _ ih =>
    obtain ⟨declaration, rfl, parsed⟩ := declares
    rw [directories_of_parsed parsed, ih]
    rfl

/-- There is no other way to read declarations. -/
theorem declarations_cases (includes : List (Option String)) :
    Misdeclared includes ∨ Textless includes ∨ ∃ found, List.Forall₂ Declares includes found := by
  induction includes with
  | nil => exact Or.inr (Or.inr ⟨[], .nil⟩)
  | cons value rest ih =>
    cases value with
    | none => exact Or.inr (Or.inl .here)
    | some declaration =>
      cases parsed : IncludeDirectory.parse declaration with
      | error fault => exact Or.inl (.here (parse_error_iff.mp parsed).1)
      | ok directory =>
        rcases ih with misdeclared | textless | ⟨found, declares⟩
        · exact Or.inl (.later misdeclared)
        · exact Or.inr (Or.inl (.later ⟨declaration, rfl, parsed⟩ textless))
        · exact Or.inr (Or.inr ⟨directory :: found, .cons ⟨declaration, rfl, parsed⟩ declares⟩)

end IncludeGraph.Proofs.Declarations
