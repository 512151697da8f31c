import IncludeGraph.Directive.Scan
import Mathlib.Tactic.Common

/-! What is found in a text, line by line. Each line contributes at most one finding, which carries its number, so that
findings stand in the order of the lines, and those of a text behind other lines are its own ones counted on. -/

namespace IncludeGraph.Proofs.Findings
open Finding

variable {number count : Nat} {text : List Char} {finding : Finding} {lines early late : List (List Char)}

theorem line_of_ofLine (found : ofLine number text = some finding) : finding.line = number := by
  unfold ofLine at found
  split at found
  · cases found
  · split at found
    · rw [← Option.some.inj found]
      rfl
    · rw [← Option.some.inj found]
      rfl

theorem ofLines_append (number : Nat) (early late : List (List Char)) :
    ofLines number (early ++ late) = ofLines number early ++ ofLines (number + early.length) late := by
  induction early generalizing number with
  | nil => rfl
  | cons line rest ih =>
    have behind : number + 1 + rest.length = number + (line :: rest).length := by
      rw [List.length_cons]
      omega
    rw [List.cons_append, ofLines, ofLines, ih, behind, List.append_assoc]

/-- A finding is what one of the lines contributes under its number. -/
theorem mem_ofLines : finding ∈ ofLines number lines ↔
    ∃ index text, lines[index]? = some text ∧ ofLine (number + index) text = some finding := by
  induction lines generalizing number with
  | nil => simp [ofLines]
  | cons line rest ih =>
    rw [ofLines, List.mem_append, Option.mem_toList, ih]
    constructor
    · rintro (here | ⟨index, text, there, found⟩)
      · exact ⟨0, line, rfl, here⟩
      · exact ⟨index + 1, text, there, by rwa [← Nat.add_assoc, Nat.add_right_comm]⟩
    · rintro ⟨index, text, there, found⟩
      cases index with
      | zero =>
        obtain rfl := Option.some.inj there
        exact Or.inl found
      | succ index => exact Or.inr ⟨index, text, there, by rwa [Nat.add_right_comm, Nat.add_assoc]⟩

theorem line_bounds (member : finding ∈ ofLines number lines) :
    number ≤ finding.line ∧ finding.line < number + lines.length := by
  obtain ⟨index, text, there, found⟩ := mem_ofLines.mp member
  obtain ⟨inside, -⟩ := List.getElem?_eq_some_iff.mp there
  rw [line_of_ofLine found]
  omega

/-- A line has one finding at most. -/
theorem eq_of_line_eq {other : Finding} (member : finding ∈ ofLines number lines)
    (memberToo : other ∈ ofLines number lines) (same : finding.line = other.line) : finding = other := by
  obtain ⟨index, text, there, found⟩ := mem_ofLines.mp member
  obtain ⟨position, content, thereToo, foundToo⟩ := mem_ofLines.mp memberToo
  rw [line_of_ofLine found, line_of_ofLine foundToo] at same
  obtain rfl : index = position := by omega
  obtain rfl := Option.some.inj (there.symm.trans thereToo)
  exact Option.some.inj (found.symm.trans foundToo)

theorem ofLines_ascending (number : Nat) (lines : List (List Char)) :
    (ofLines number lines).Pairwise fun finding later => finding.line < later.line := by
  induction lines generalizing number with
  | nil => exact .nil
  | cons line rest ih =>
    rw [ofLines, List.pairwise_append]
    refine ⟨?_, ih (number + 1), ?_⟩
    · cases ofLine number line with
      | none => exact .nil
      | some finding => exact List.pairwise_singleton _ finding
    · intro finding here later behind
      rw [line_of_ofLine (Option.mem_toList.mp here)]
      exact (line_bounds behind).1

def behind (count : Nat) : Finding → Finding
  | .directive found => .directive { found with line := found.line + count }
  | .malformed number text => .malformed (number + count) text

theorem behind_line (count : Nat) (finding : Finding) : (behind count finding).line = finding.line + count := by
  cases finding with
  | directive found => rfl
  | malformed number text => rfl

theorem ofLine_behind (number count : Nat) (text : List Char) :
    ofLine (number + count) text = (ofLine number text).map (behind count) := by
  unfold ofLine
  split
  · rfl
  · split
    · rfl
    · rfl

theorem ofLines_behind (number count : Nat) (lines : List (List Char)) :
    ofLines (number + count) lines = (ofLines number lines).map (behind count) := by
  induction lines generalizing number with
  | nil => rfl
  | cons line rest ih =>
    rw [ofLines, ofLines, List.map_append, ← ih, ofLine_behind, Nat.add_right_comm]
    cases ofLine number line with
    | none => rfl
    | some finding => rfl

theorem ofLines_one_append (early late : List (List Char)) :
    ofLines 1 (early ++ late) = ofLines 1 early ++ (ofLines 1 late).map (behind early.length) := by
  rw [ofLines_append, ofLines_behind]

end IncludeGraph.Proofs.Findings
