import IncludeGraph.Proofs.Locations

/-! What writing to a path changes. The text stands at the place where the path leads, every other place is as it was, and
the path reads as the text from then on. -/

namespace IncludeGraph.Proofs.Writes
open FileSystem Locations

/-- A walk ends at the place where a text can be put: at a file, or at a free name. -/
inductive Marks (place : List String) : Place → Prop where
  | file {content} : Marks place (.taken place (.file content))
  | fresh {directory name} (spelled : directory ++ [name] = place) : Marks place (.free directory name false)

def Lands (files : FileSystem) (path : String) (place : List String) : Prop :=
  ∃ there, files.locate path = .ok there ∧ Marks place there

/-- The place holds a file with the content, and nothing else differs. It is enough to tell how every path reads
afterwards. -/
structure Puts (before : FileSystem) (place : List String) (content : List UInt8) (after : FileSystem) : Prop where
  workingDirectory : after.workingDirectory = before.workingDirectory
  entry : after.entry? place = some (.file content)
  others : ∀ other, other ≠ place → after.entry? other = before.entry? other

/-- At most a file stands at the place, so that no walk passes on from it. -/
def Fits (files : FileSystem) (place : List String) : Prop :=
  ∀ entry, files.entry? place = some entry → ∃ content, entry = .file content

variable {before after : FileSystem} {path text : String} {place here parts : List String} {content : List UInt8}
  {there : Place}

theorem puts_insert (files : FileSystem) (place : List String) (content : List UInt8) :
    Puts files place content { files with entries := files.entries.insert place (.file content) } := by
  refine ⟨rfl, ?_, ?_⟩
  · simp [FileSystem.entry?]
  · intro other different
    simp only [FileSystem.entry?, Table.find?_insert_of_ne (Ne.symm different)]

theorem puts_of_write (stored : before.write path text = .ok after) :
    ∃ place, Lands before path place ∧ Puts before place (Text.Utf8.encode text.toList) after := by
  unfold FileSystem.write at stored
  dsimp only at stored
  split at stored
  · cases stored
  next directory name located =>
    obtain rfl := Except.ok.inj stored
    exact ⟨_, ⟨_, located, .fresh rfl⟩, puts_insert before _ _⟩
  · cases stored
  next place old located =>
    obtain rfl := Except.ok.inj stored
    exact ⟨_, ⟨_, located, .file⟩, puts_insert before _ _⟩
  all_goals cases stored

private theorem fits_of_advance (marks : Marks place there) (arrives : before.advance here parts = .at there) :
    Fits before place := by
  fun_induction FileSystem.advance before here parts with
  | case1 here found stands =>
    obtain rfl := Arrival.at.inj arrives
    cases marks
    intro entry same
    exact ⟨_, Option.some.inj (same.symm.trans stands)⟩
  | case4 _ _ _ _ _ _ ih | case5 _ _ _ _ _ ih => exact ih arrives
  | case10 _ _ _ _ _ _ _ _ _ _ _ ih => exact ih arrives
  | case7 here part rest listable stands plain up short vacant blank =>
    obtain rfl := Arrival.at.inj arrives
    cases rest with
    | cons next rest => cases marks
    | nil =>
      cases marks with
      | fresh spelled =>
        intro entry same
        rw [← spelled, vacant] at same
        cases same
  | case2 | case3 | case6 | case8 | case9 | case11 => cases arrives

private theorem fits_of_follow {links : Nat} (marks : Marks place there)
    (followed : before.follow links here parts = .ok there) : Fits before place := by
  fun_induction FileSystem.follow before links here parts with
  | case1 here parts _ arrives | case4 here parts _ _ arrives =>
    rw [Except.ok.inj followed] at arrives
    exact fits_of_advance marks arrives
  | case2 | case3 | case5 => cases followed
  | case6 _ _ _ _ _ _ ih => exact ih followed

theorem Puts.kept (puts : Puts before place content after) (fits : Fits before place) {entry : Entry}
    (stands : before.entry? here = some entry) (solid : ∀ content, entry ≠ .file content) :
    after.entry? here = some entry := by
  rw [puts.others, stands]
  rintro rfl
  obtain ⟨content, same⟩ := fits entry stands
  exact solid content same

/-- Where no link stood before, none stands afterwards. -/
private theorem Puts.unlinked (puts : Puts before place content after) {entry : Entry}
    (stands : before.entry? here = some entry) (unlinked : ∀ target, entry ≠ .link target) :
    ∃ other, after.entry? here = some other ∧ ∀ target, other ≠ .link target := by
  by_cases same : here = place
  · subst same
    exact ⟨_, puts.entry, nofun⟩
  · exact ⟨entry, (puts.others here same).trans stands, unlinked⟩

/-- How a walk ends afterwards: links turn it as before, and where it ended at the place it finds the file. -/
def Retraces (place : List String) (content : List UInt8) : Arrival → Arrival → Prop
  | .redirected on more, later => later = .redirected on more
  | .at there, later => Marks place there → later = .at (.taken place (.file content))
  | .refused _, _ => True

private theorem Puts.retraces (puts : Puts before place content after) (fits : Fits before place)
    (here parts : List String) :
    Retraces place content (before.advance here parts) (after.advance here parts) := by
  fun_induction FileSystem.advance before here parts with
  | case1 here found stands =>
    intro marks
    cases marks
    rw [FileSystem.advance, puts.entry]
  | case4 here part rest listable stands stays ih =>
    rw [advance_stays (puts.kept fits stands (by simp)) stays]
    exact ih
  | case5 here rest listable stands plain ih =>
    rw [advance_up (puts.kept fits stands (by simp))]
    exact ih
  | case7 here part rest listable stands plain up short vacant blank =>
    intro marks
    cases rest with
    | cons next rest => cases marks
    | nil =>
      cases marks with
      | fresh spelled =>
        -- The walk ended in front of a free name. Now it goes one part further and finds the file.
        have found : after.entry? (here ++ [part]) = some (.file content) := by rw [spelled, puts.entry]
        rw [advance_on (puts.kept fits stands (by simp)) plain up short found (by simp), spelled, FileSystem.advance,
          puts.entry]
  | case9 here part rest listable stands plain up short target link =>
    exact advance_link (puts.kept fits stands (by simp)) plain up short (puts.kept fits link (by simp))
  | case10 here part rest listable stands plain up short other unlinked next ih =>
    -- The walk may pass the place itself, so the entry need not be the one from before.
    obtain ⟨entry, found, plainly⟩ := puts.unlinked next unlinked
    rw [advance_on (puts.kept fits stands (by simp)) plain up short found plainly]
    exact ih
  | case2 | case3 | case6 | case8 | case11 => trivial

theorem Puts.follow (puts : Puts before place content after) (fits : Fits before place) {links : Nat}
    (followed : before.follow links here parts = .ok there) (marks : Marks place there) :
    after.follow links here parts = .ok (.taken place (.file content)) := by
  induction links generalizing here parts with
  | zero =>
    rw [FileSystem.follow] at followed ⊢
    have retraces := puts.retraces fits here parts
    split at followed
    next arrives =>
      rw [arrives, Except.ok.inj followed] at retraces
      rw [retraces marks]
    all_goals cases followed
  | succ links ih =>
    rw [FileSystem.follow] at followed ⊢
    have retraces := puts.retraces fits here parts
    split at followed
    next arrives =>
      rw [arrives, Except.ok.inj followed] at retraces
      rw [retraces marks]
    · cases followed
    next turns =>
      rw [turns] at retraces
      rw [retraces]
      exact ih followed

/-- A path reads as what was written to it. -/
theorem Puts.read (puts : Puts before place content after) (lands : Lands before path place) :
    after.read path = .ok content := by
  obtain ⟨there, located, marks⟩ := lands
  obtain ⟨clean, filled, short, followed⟩ := locate_ok_iff.mp located
  have arrives := puts.follow (fits_of_follow marks followed) followed marks
  apply read_ok_iff.mpr
  refine ⟨place, locate_ok_iff.mpr ⟨clean, filled, short, ?_⟩⟩
  rw [puts.workingDirectory]
  exact arrives

end IncludeGraph.Proofs.Writes
