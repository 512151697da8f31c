/-! Tables: keys with values, in the order in which the keys were first put. -/

namespace IncludeGraph

/-- A table from keys to values. -/
structure Table (κ : Type) (α : Type) where
  entries : List (κ × α) := []
  deriving DecidableEq, Repr

namespace Table

variable {κ α : Type} [DecidableEq κ]

/-- The value of the first entry with the key. -/
def lookup (key : κ) : List (κ × α) → Option α
  | [] => none
  | (other, value) :: rest => if other = key then some value else lookup key rest

/-- Replaces the value of the first entry with the key, or appends an entry. -/
def replace (key : κ) (value : α) : List (κ × α) → List (κ × α)
  | [] => [(key, value)]
  | (other, old) :: rest => if other = key then (other, value) :: rest else (other, old) :: replace key value rest

/-- The value stored under a key. -/
def find? (table : Table κ α) (key : κ) : Option α := lookup key table.entries

/-- Is there a value under the key? -/
def contains (table : Table κ α) (key : κ) : Bool := (table.find? key).isSome

/-- Stores a value under a key; a known key keeps its place. -/
def insert (table : Table κ α) (key : κ) (value : α) : Table κ α := ⟨replace key value table.entries⟩

/-- The keys in the order of their first insertion. -/
def keys (table : Table κ α) : List κ := table.entries.map (·.1)

/-- The values in the order of their keys. -/
def values (table : Table κ α) : List α := table.entries.map (·.2)

def size (table : Table κ α) : Nat := table.entries.length

@[simp] theorem lookup_replace_self (key : κ) (value : α) (entries : List (κ × α)) :
    lookup key (replace key value entries) = some value := by
  induction entries with
  | nil => simp [replace, lookup]
  | cons entry rest ih =>
    by_cases same : entry.1 = key
    · simp [replace, lookup, same]
    · simp [replace, lookup, same, ih]

theorem lookup_replace_of_ne {key other : κ} (different : key ≠ other) (value : α) (entries : List (κ × α)) :
    lookup other (replace key value entries) = lookup other entries := by
  induction entries with
  | nil => simp [replace, lookup, different]
  | cons entry rest ih =>
    by_cases same : entry.1 = key
    · simp [replace, lookup, same, different]
    · simp [replace, lookup, same, ih]

@[simp] theorem find?_insert_self (table : Table κ α) (key : κ) (value : α) :
    (table.insert key value).find? key = some value := lookup_replace_self key value table.entries

theorem find?_insert_of_ne {key other : κ} (different : key ≠ other) (table : Table κ α) (value : α) :
    (table.insert key value).find? other = table.find? other := lookup_replace_of_ne different value table.entries

/-- Storing a value changes what is found under its own key only. -/
theorem find?_insert (table : Table κ α) (key other : κ) (value : α) :
    (table.insert key value).find? other = if key = other then some value else table.find? other := by
  split
  next same => subst same; exact find?_insert_self table key value
  next different => exact find?_insert_of_ne different table value

theorem lookup_append (key : κ) (first second : List (κ × α)) :
    lookup key (first ++ second) = (lookup key first).or (lookup key second) := by
  induction first with
  | nil => simp [lookup]
  | cons entry rest ih =>
    by_cases same : entry.1 = key
    · simp [lookup, same]
    · simp [lookup, same, ih]

theorem lookup_eq_none_iff {key : κ} {entries : List (κ × α)} :
    lookup key entries = none ↔ key ∉ entries.map (·.1) := by
  induction entries with
  | nil => simp [lookup]
  | cons entry rest ih =>
    by_cases same : entry.1 = key
    · simp [lookup, same]
    · simp [lookup, same, ih, Ne.symm same]

theorem mem_of_lookup {key : κ} {value : α} {entries : List (κ × α)} (found : lookup key entries = some value) :
    (key, value) ∈ entries := by
  induction entries with
  | nil => simp [lookup] at found
  | cons entry rest ih =>
    obtain ⟨other, stored⟩ := entry
    by_cases same : other = key
    · simp only [lookup, same, if_true, Option.some.injEq] at found
      simp [same, found]
    · simp only [lookup, same, if_false] at found
      exact List.mem_cons_of_mem _ (ih found)

/-- Where every key stands once, every entry is found under its key. -/
theorem lookup_of_mem {key : κ} {value : α} {entries : List (κ × α)} (distinct : (entries.map (·.1)).Nodup)
    (member : (key, value) ∈ entries) : lookup key entries = some value := by
  induction entries with
  | nil => simp at member
  | cons entry rest ih =>
    obtain ⟨fresh, distinct⟩ := List.nodup_cons.mp distinct
    rcases List.mem_cons.mp member with rfl | inside
    · simp [lookup]
    · have different : entry.1 ≠ key := by
        intro same
        exact fresh (List.mem_map.mpr ⟨_, inside, same.symm⟩)
      simp [lookup, different, ih distinct inside]

theorem replace_of_absent {key : κ} {entries : List (κ × α)} (absent : lookup key entries = none) (value : α) :
    replace key value entries = entries ++ [(key, value)] := by
  induction entries with
  | nil => simp [replace]
  | cons entry rest ih =>
    by_cases same : entry.1 = key
    · simp [lookup, same] at absent
    · simp only [lookup, same, if_false] at absent
      simp [replace, same, ih absent]

theorem keys_replace_of_present {key : κ} {old : α} {entries : List (κ × α)} (present : lookup key entries = some old)
    (value : α) : (replace key value entries).map (·.1) = entries.map (·.1) := by
  induction entries with
  | nil => simp [lookup] at present
  | cons entry rest ih =>
    by_cases same : entry.1 = key
    · simp [replace, same]
    · simp only [lookup, same, if_false] at present
      simp [replace, same, ih present]

theorem keys_insert_of_present {table : Table κ α} {key : κ} {old : α} (present : table.find? key = some old)
    (value : α) : (table.insert key value).keys = table.keys := keys_replace_of_present present value

theorem keys_insert_of_absent {table : Table κ α} {key : κ} (absent : table.find? key = none) (value : α) :
    (table.insert key value).keys = table.keys ++ [key] := by
  simp [insert, keys, replace_of_absent absent]

theorem find?_eq_none_iff (table : Table κ α) (key : κ) : table.find? key = none ↔ key ∉ table.keys :=
  lookup_eq_none_iff

theorem mem_keys_iff (table : Table κ α) (key : κ) : key ∈ table.keys ↔ ∃ value, table.find? key = some value := by
  rw [← Option.ne_none_iff_exists', ne_eq, find?_eq_none_iff, Classical.not_not]

theorem contains_iff (table : Table κ α) (key : κ) : table.contains key = true ↔ key ∈ table.keys := by
  rw [contains, Option.isSome_iff_exists, mem_keys_iff]

/-- Where every key stands once, the values are those that are found. -/
theorem mem_values_iff {table : Table κ α} (distinct : table.keys.Nodup) (value : α) :
    value ∈ table.values ↔ ∃ key, table.find? key = some value := by
  constructor
  · intro member
    obtain ⟨⟨key, stored⟩, inside, rfl⟩ := List.mem_map.mp member
    exact ⟨key, lookup_of_mem distinct inside⟩
  · rintro ⟨key, found⟩
    exact List.mem_map.mpr ⟨_, mem_of_lookup found, rfl⟩

end Table

end IncludeGraph
