/-! Sorted names. Names are ordered by code point, and each is listed once. -/

namespace IncludeGraph.Text

/-- Puts a name into an ascending list, unless it is there already. -/
def place (name : String) : List String → List String
  | [] => [name]
  | first :: rest =>
    if name < first then name :: first :: rest
    else if first < name then first :: place name rest
    else first :: rest

def ascending (names : List String) : List String := names.foldr place []

def descending (names : List String) : List String := (ascending names).reverse

theorem mem_place {name other : String} {names : List String} :
    other ∈ place name names ↔ other = name ∨ other ∈ names := by
  induction names with
  | nil => simp [place]
  | cons first rest ih =>
    simp only [place]
    split
    · simp
    · split
      · rw [List.mem_cons, ih, List.mem_cons, or_left_comm]
      next above below =>
        have same : name = first := String.le_antisymm (String.not_lt.mp below) (String.not_lt.mp above)
        simp [same]

theorem mem_ascending {name : String} {names : List String} : name ∈ ascending names ↔ name ∈ names := by
  unfold ascending
  induction names with
  | nil => simp
  | cons first rest ih => rw [List.foldr_cons, mem_place, ih, List.mem_cons]

theorem mem_descending {name : String} {names : List String} : name ∈ descending names ↔ name ∈ names := by
  rw [descending, List.mem_reverse, mem_ascending]

private theorem place_pairwise (name : String) {names : List String} (sorted : names.Pairwise (· < ·)) :
    (place name names).Pairwise (· < ·) := by
  induction names with
  | nil => simp [place]
  | cons first rest ih =>
    obtain ⟨least, sorted⟩ := List.pairwise_cons.mp sorted
    simp only [place]
    split
    next below =>
      refine List.pairwise_cons.mpr ⟨?_, List.pairwise_cons.mpr ⟨least, sorted⟩⟩
      intro other member
      rcases List.mem_cons.mp member with rfl | later
      · exact below
      · exact String.lt_trans below (least other later)
    · split
      next above =>
        refine List.pairwise_cons.mpr ⟨?_, ih sorted⟩
        intro other member
        rcases mem_place.mp member with rfl | later
        · exact above
        · exact least other later
      · exact List.pairwise_cons.mpr ⟨least, sorted⟩

theorem ascending_pairwise (names : List String) : (ascending names).Pairwise (· < ·) := by
  unfold ascending
  induction names with
  | nil => simp
  | cons first rest ih => exact place_pairwise first ih

theorem descending_pairwise (names : List String) : (descending names).Pairwise (· > ·) :=
  List.pairwise_reverse.mpr (ascending_pairwise names)

theorem ascending_nodup (names : List String) : (ascending names).Nodup := by
  apply (ascending_pairwise names).imp
  rintro first second below rfl
  exact String.lt_irrefl first below

theorem descending_nodup (names : List String) : (descending names).Nodup :=
  List.pairwise_reverse.mpr ((ascending_nodup names).imp Ne.symm)

private theorem eq_of_mem_iff {names others : List String} (sorted : names.Pairwise (· < ·))
    (ordered : others.Pairwise (· < ·)) (same : ∀ name, name ∈ names ↔ name ∈ others) : names = others := by
  induction names generalizing others with
  | nil =>
    cases others with
    | nil => rfl
    | cons first rest => exact absurd ((same first).mpr (by simp)) (by simp)
  | cons name rest ih =>
    obtain ⟨least, sortedRest⟩ := List.pairwise_cons.mp sorted
    cases others with
    | nil => exact absurd ((same name).mp (by simp)) (by simp)
    | cons other later =>
      obtain ⟨lowest, orderedLater⟩ := List.pairwise_cons.mp ordered
      obtain rfl : name = other := by
        rcases List.mem_cons.mp ((same name).mp (by simp)) with equal | above
        · exact equal
        · rcases List.mem_cons.mp ((same other).mpr (by simp)) with equal | below
          · exact equal.symm
          · exact absurd (least other below) (String.lt_asymm (lowest name above))
      refine congrArg (name :: ·) (ih sortedRest orderedLater ?_)
      intro further
      constructor
      · intro member
        rcases List.mem_cons.mp ((same further).mp (by simp [member])) with rfl | inside
        · exact absurd (least further member) (String.lt_irrefl further)
        · exact inside
      · intro member
        rcases List.mem_cons.mp ((same further).mpr (by simp [member])) with rfl | inside
        · exact absurd (lowest further member) (String.lt_irrefl further)
        · exact inside

theorem ascending_congr {names others : List String} (same : ∀ name, name ∈ names ↔ name ∈ others) :
    ascending names = ascending others :=
  eq_of_mem_iff (ascending_pairwise names) (ascending_pairwise others) fun name => by
    rw [mem_ascending, mem_ascending, same]

theorem descending_congr {names others : List String} (same : ∀ name, name ∈ names ↔ name ∈ others) :
    descending names = descending others := congrArg List.reverse (ascending_congr same)

end IncludeGraph.Text
