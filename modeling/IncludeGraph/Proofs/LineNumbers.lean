import IncludeGraph.Proofs.DirectiveLines
import IncludeGraph.Proofs.LineEndings

/-! What the number of a line counts. The lines of a file end at line feeds and carriage returns, which is how an editor
numbers them. A scan ends lines at eight other characters too, so that each of them makes the numbers behind it too high
by one, and what stands behind it in its line is read as a line of its own. -/

namespace IncludeGraph.Proofs.LineNumbers
open Text Findings Scanning DirectiveLines

/-- The lines of a text if these characters end a line, and a carriage return with a line feed behind it. Files and
scans have the same rule and differ in the characters. -/
def linesEnding (ends : Char → Bool) : List Char → List (List Char)
  | [] => []
  | '\r' :: '\n' :: rest => [] :: linesEnding ends rest
  | c :: rest => if ends c then [] :: linesEnding ends rest else consFirst c (linesEnding ends rest)

def endsFileLine (c : Char) : Bool := c = '\n' || c = '\r'

def fileLines (text : List Char) : List (List Char) := linesEnding endsFileLine text

/-- What the lines of the file have by the same rule, with the numbers that they have in the file. -/
def fileFindings (text : List Char) : List Finding := Finding.ofLines 1 (fileLines text)

def pieces (line : List Char) : List (List Char) := line.splitOnP isBreak

def firstPiece (line : List Char) : List Char := line.takeWhile (!isBreak ·)

/-- How many lines a scan sees before a line of a file: those of the file, and one more for each further break. This
is what the numbers of findings count. -/
def seenBefore (lines : List (List Char)) (index : Nat) : Nat := index + (lines.take index).flatten.countP isBreak

/-- The line of a file with this index is read as the file has it: nothing is found behind its first break, and a finding
has the number of the line and what the whole line says. -/
structure ReadWhole (lines : List (List Char)) (index : Nat) (line : List Char) : Prop where
  rest : ∀ piece ∈ (pieces line).tail, Directive.token? piece = none
  first : Directive.token? line ≠ none → (∀ earlier ∈ lines.take index, Unbroken earlier) ∧
    Finding.ofLine (1 + index) (firstPiece line) = Finding.ofLine (1 + index) line

def NumberedAsFile (text : List Char) : Prop := Finding.scan text = fileFindings text

variable {text line piece : List Char} {lines : List (List Char)} {number count : Nat} {finding : Finding}

private theorem isBreak_of_endsFileLine {c : Char} (ends : endsFileLine c = true) : isBreak c = true := by
  simp only [endsFileLine, Bool.or_eq_true, decide_eq_true_eq] at ends
  rcases ends with rfl | rfl
  · decide
  · decide

theorem linesEnding_isBreak (text : List Char) : linesEnding isBreak text = Text.lines text := by
  fun_induction Text.lines text with
  | case1 => rfl
  | case2 rest ih => rw [linesEnding, ih]
  | case3 c rest apart ends ih => rw [linesEnding.eq_3 _ _ _ apart, if_pos ends, ih]
  | case4 c rest apart inside ih => rw [linesEnding.eq_3 _ _ _ apart, if_neg inside, ih]

private theorem linesEnding_ne_nil {ends : Char → Bool} (filled : text ≠ []) : linesEnding ends text ≠ [] := by
  fun_cases linesEnding ends text with
  | case1 => exact absurd rfl filled
  | case2 rest => simp
  | case3 c rest apart stops => simp
  | case4 c rest apart inside => cases linesEnding ends rest <;> simp [consFirst]

private theorem consFirst_of_ne_nil {c : Char} (filled : lines ≠ []) :
    consFirst c lines = lines.modifyHead (c :: ·) := by
  obtain ⟨head, tail, rfl⟩ := List.exists_cons_of_ne_nil filled
  rfl

private theorem pieces_ne_nil (line : List Char) : pieces line ≠ [] := List.splitOnP_ne_nil _ _

private theorem pieces_cons (c : Char) (line : List Char) :
    pieces (c :: line) = if isBreak c then [] :: pieces line else consFirst c (pieces line) := by
  rw [consFirst_of_ne_nil (pieces_ne_nil line)]
  exact List.splitOnP_cons_eq_if_modifyHead ..

/-- One more character at the front of a line is at the front of its first piece, or ends an empty one. -/
private theorem flatMap_pieces_consFirst {c : Char} (filled : lines ≠ []) : (consFirst c lines).flatMap pieces =
    if isBreak c then [] :: lines.flatMap pieces else consFirst c (lines.flatMap pieces) := by
  obtain ⟨line, rest, rfl⟩ := List.exists_cons_of_ne_nil filled
  rw [consFirst, List.flatMap_cons, pieces_cons]
  split
  · rfl
  · obtain ⟨piece, more, shape⟩ := List.exists_cons_of_ne_nil (pieces_ne_nil line)
    rw [List.flatMap_cons, shape]
    rfl

/-- The pieces of the lines of a file are the lines that a scan sees. Only a break at the very end, which opens no
further line for a scan, leaves an empty piece behind. -/
theorem pieces_fileLines (text : List Char) : (fileLines text).flatMap pieces = Text.lines text ∨
    (fileLines text).flatMap pieces = Text.lines text ++ [[]] := by
  unfold fileLines
  rw [← linesEnding_isBreak]
  fun_induction linesEnding isBreak text with
  | case1 => exact Or.inl rfl
  | case2 rest ih =>
    rw [linesEnding, List.flatMap_cons]
    exact ih.imp (congrArg (List.cons [])) (congrArg (List.cons []))
  | case3 c rest apart ends ih =>
    rw [linesEnding.eq_3 _ _ _ apart]
    split
    · exact ih.imp (congrArg (List.cons [])) (congrArg (List.cons []))
    · by_cases last : rest = []
      -- The text ends in a break here, which opens no line for a scan.
      · subst last
        exact Or.inr (by simp [linesEnding, consFirst, pieces, List.splitOnP_cons_eq_if_modifyHead, ends])
      · rw [flatMap_pieces_consFirst (linesEnding_ne_nil last), if_pos ends]
        exact ih.imp (congrArg (List.cons [])) (congrArg (List.cons []))
  | case4 c rest apart inside ih =>
    have plain : ¬ endsFileLine c = true := fun ends => inside (isBreak_of_endsFileLine ends)
    rw [linesEnding.eq_3 _ _ _ apart, if_neg plain]
    by_cases last : rest = []
    · subst last
      exact Or.inl (by simp [linesEnding, consFirst, pieces, List.splitOnP_cons_eq_if_modifyHead, inside])
    · rw [flatMap_pieces_consFirst (linesEnding_ne_nil last), if_neg inside]
      obtain ⟨first, more, shape⟩ := List.exists_cons_of_ne_nil (@linesEnding_ne_nil rest isBreak last)
      rw [shape] at ih ⊢
      exact ih.imp (congrArg (consFirst c)) (congrArg (consFirst c))

theorem scan_eq_ofLines (text : List Char) :
    Finding.scan text = Finding.ofLines 1 ((fileLines text).flatMap pieces) := by
  have nothing : ∀ number, Finding.ofLines number [[]] = [] := fun number => rfl
  rw [Finding.scan]
  rcases pieces_fileLines text with same | same
  · rw [same]
  · rw [same, ofLines_append, nothing, List.append_nil]

theorem length_pieces (line : List Char) : (pieces line).length = line.countP isBreak + 1 := by
  induction line with
  | nil => rfl
  | cons c line ih =>
    rw [pieces_cons]
    split
    next ends => rw [List.length_cons, ih, List.countP_cons_of_pos ends]
    next inside =>
      rw [consFirst_of_ne_nil (pieces_ne_nil line), List.length_modifyHead, ih, List.countP_cons_of_neg inside]

@[simp] theorem seenBefore_zero (lines : List (List Char)) : seenBefore lines 0 = 0 := rfl

theorem seenBefore_succ (line : List Char) (rest : List (List Char)) (index : Nat) :
    seenBefore (line :: rest) (index + 1) = (pieces line).length + seenBefore rest index := by
  rw [seenBefore, seenBefore, length_pieces, List.take_succ_cons, List.flatten_cons, List.countP_append]
  omega

/-- The findings of a scan are those of the pieces. -/
private theorem mem_ofLines_pieces : finding ∈ Finding.ofLines number (lines.flatMap pieces) ↔
    ∃ index line position piece, lines[index]? = some line ∧ (pieces line)[position]? = some piece ∧
      Finding.ofLine (number + (seenBefore lines index + position)) piece = some finding := by
  induction lines generalizing number with
  | nil => simp [Finding.ofLines]
  | cons line rest ih =>
    rw [List.flatMap_cons, ofLines_append, List.mem_append, mem_ofLines, ih]
    constructor
    · intro found
      rcases found with ⟨position, piece, there, found⟩ | ⟨index, own, position, piece, listed, there, found⟩
      · exact ⟨0, line, position, piece, rfl, there, by simpa using found⟩
      · refine ⟨index + 1, own, position, piece, listed, there, ?_⟩
        rwa [seenBefore_succ, Nat.add_assoc, ← Nat.add_assoc number]
    · intro found
      obtain ⟨index, own, position, piece, listed, there, found⟩ := found
      cases index with
      | zero =>
        obtain rfl := Option.some.inj listed
        exact Or.inl ⟨position, piece, there, by simpa using found⟩
      | succ index =>
        refine Or.inr ⟨index, own, position, piece, listed, there, ?_⟩
        rwa [seenBefore_succ, Nat.add_assoc, ← Nat.add_assoc number] at found

private theorem exists_pieces (line : List Char) : ∃ rest, pieces line = firstPiece line :: rest := by
  induction line with
  | nil => exact ⟨[], rfl⟩
  | cons c line ih =>
    obtain ⟨rest, shape⟩ := ih
    rw [pieces_cons, firstPiece]
    split
    next ends => exact ⟨pieces line, by simp [ends]⟩
    next inside => exact ⟨rest, by simp [shape, inside, consFirst, firstPiece]⟩

/-- The directive word with nothing or a blank behind it ends before the first break, which is a blank itself. -/
private theorem token?_firstPiece_eq_none_iff :
    Directive.token? (firstPiece line) = none ↔ Directive.token? line = none := by
  have unbroken : Unbroken Directive.word := by decide
  obtain ⟨behind, whole, starts⟩ : ∃ behind, line = firstPiece line ++ behind ∧ Apart behind := by
    refine ⟨line.dropWhile (!isBreak ·), List.takeWhile_append_dropWhile.symm, ?_⟩
    intro c first
    have stops := List.head?_dropWhile_not (!isBreak ·) line
    rw [Option.mem_def.mp first] at stops
    exact isBlank_of_isBreak (by simpa using stops)
  rw [← not_iff_not, ← ne_eq, ← ne_eq, Option.ne_none_iff_exists', Option.ne_none_iff_exists']
  constructor
  · intro ⟨token, read⟩
    obtain ⟨rest, shape, apart, -⟩ := token?_eq_some_iff.mp read
    refine ⟨_, token?_eq_some_iff.mpr ⟨rest ++ behind, ?_, ?_, rfl⟩⟩
    · rw [whole, shape, List.append_assoc]
    · cases rest with
      | nil => exact starts
      | cons c rest => exact apart
  · intro ⟨token, read⟩
    obtain ⟨rest, shape, apart, -⟩ := token?_eq_some_iff.mp read
    refine ⟨_, token?_eq_some_iff.mpr ⟨firstPiece rest, ?_, ?_, rfl⟩⟩
    · rw [shape, firstPiece, List.takeWhile_append_of_pos fun c member => by simp [unbroken c member], firstPiece]
    · cases rest with
      | nil => exact apart
      | cons c rest =>
        intro first member
        rw [firstPiece, List.takeWhile_cons] at member
        split at member
        · exact apart first member
        · cases member

private theorem ofLine_eq_none_iff : Finding.ofLine number line = none ↔ Directive.token? line = none := by
  unfold Finding.ofLine
  split
  next absent => simp [absent]
  next token read =>
    rw [read]
    split <;> simp

private theorem ofLines_eq_nil_iff :
    Finding.ofLines number lines = [] ↔ ∀ line ∈ lines, Directive.token? line = none := by
  induction lines generalizing number with
  | nil => simp [Finding.ofLines]
  | cons line rest ih =>
    rw [Finding.ofLines, List.append_eq_nil_iff, ih, Option.toList_eq_nil_iff, ofLine_eq_none_iff, List.forall_mem_cons]

/-- A line of the file that has a finding has it in its first piece. -/
private theorem length_ofLine_le (number count : Nat) (line : List Char) :
    (Finding.ofLine number line).toList.length ≤ (Finding.ofLines count (pieces line)).length := by
  obtain ⟨rest, shape⟩ := exists_pieces line
  rw [shape, Finding.ofLines, List.length_append]
  by_cases absent : Directive.token? line = none
  · rw [ofLine_eq_none_iff.mpr absent]
    exact Nat.zero_le _
  · have present : Finding.ofLine count (firstPiece line) ≠ none := by
      rwa [ne_eq, ofLine_eq_none_iff, token?_firstPiece_eq_none_iff]
    obtain ⟨finding, found⟩ := Option.ne_none_iff_exists'.mp present
    rw [found]
    cases Finding.ofLine number line with
    | none => exact Nat.zero_le _
    | some other => exact Nat.le_add_right 1 _

private theorem length_ofLines_le (number count : Nat) (lines : List (List Char)) :
    (Finding.ofLines number lines).length ≤ (Finding.ofLines count (lines.flatMap pieces)).length := by
  induction lines generalizing number count with
  | nil => exact Nat.le_refl _
  | cons line rest ih =>
    rw [Finding.ofLines, List.flatMap_cons, ofLines_append, List.length_append, List.length_append]
    exact Nat.add_le_add (length_ofLine_le number count line) (ih _ _)

/-- A scan has no fewer findings than the file in any line, so that both have the same ones only if each line has. -/
private theorem ofLines_pieces_eq_iff : Finding.ofLines count (lines.flatMap pieces) = Finding.ofLines number lines ↔
    ∀ index line, lines[index]? = some line → Finding.ofLines (count + seenBefore lines index) (pieces line) =
      (Finding.ofLine (number + index) line).toList := by
  induction lines generalizing number count with
  | nil => simp [Finding.ofLines]
  | cons line rest ih =>
    rw [List.flatMap_cons, ofLines_append, Finding.ofLines]
    constructor
    · intro same
      have fewer := length_ofLine_le number count line
      have later := length_ofLines_le (number + 1) (count + (pieces line).length) rest
      have total := congrArg List.length same
      rw [List.length_append, List.length_append] at total
      -- Neither part is shorter than that of the file, so that equal lists are cut at the same place.
      obtain ⟨here, behind⟩ := List.append_inj same (by omega)
      intro index own listed
      cases index with
      | zero =>
        obtain rfl := Option.some.inj listed
        exact here
      | succ index =>
        rw [seenBefore_succ, ← Nat.add_assoc, Nat.add_comm index, ← Nat.add_assoc]
        exact ih.mp behind index own listed
    · intro each
      have here := each 0 line rfl
      have behind : Finding.ofLines (count + (pieces line).length) (rest.flatMap pieces) =
          Finding.ofLines (number + 1) rest := by
        apply ih.mpr
        intro index own listed
        have next := each (index + 1) own listed
        rwa [seenBefore_succ, ← Nat.add_assoc, Nat.add_comm index, ← Nat.add_assoc] at next
      exact congrArg₂ (· ++ ·) here behind

private theorem seenBefore_eq_iff (index : Nat) :
    seenBefore lines index = index ↔ ∀ earlier ∈ lines.take index, Unbroken earlier := by
  rw [seenBefore, Nat.add_eq_left, List.countP_eq_zero]
  simp only [List.mem_flatten, Unbroken, Bool.not_eq_true]
  constructor
  · intro none earlier member c inside
    exact none c ⟨earlier, member, inside⟩
  · intro unbroken c ⟨earlier, member, inside⟩
    exact unbroken earlier member c inside

/-- A line contributes what the file has there if its number is that of the file, its first piece is read as the line is,
and nothing is found behind it. -/
private theorem ofLines_pieces_line_iff : Finding.ofLines count (pieces line) = (Finding.ofLine number line).toList ↔
    (∀ piece ∈ (pieces line).tail, Directive.token? piece = none) ∧
    (Directive.token? line ≠ none →
      count = number ∧ Finding.ofLine number (firstPiece line) = Finding.ofLine number line) := by
  obtain ⟨rest, shape⟩ := exists_pieces line
  rw [shape, Finding.ofLines, List.tail_cons, ← @ofLines_eq_nil_iff rest (count + 1)]
  by_cases absent : Directive.token? line = none
  · rw [ofLine_eq_none_iff.mpr absent, ofLine_eq_none_iff.mpr (token?_firstPiece_eq_none_iff.mpr absent)]
    simp [absent]
  · have some : ∀ number, Finding.ofLine number (firstPiece line) ≠ none := fun number => by
      rwa [ne_eq, ofLine_eq_none_iff, token?_firstPiece_eq_none_iff]
    obtain ⟨found, here⟩ := Option.ne_none_iff_exists'.mp (some count)
    obtain ⟨own, there⟩ := Option.ne_none_iff_exists'.mp (mt ofLine_eq_none_iff.mp absent)
    rw [here, there]
    constructor
    · intro same
      obtain ⟨rfl, nothing⟩ := List.cons.inj same
      obtain rfl : count = number := (line_of_ofLine here).symm.trans (line_of_ofLine there)
      exact ⟨nothing, fun _ => ⟨rfl, here⟩⟩
    · intro whole
      obtain ⟨nothing, alike⟩ := whole
      obtain ⟨rfl, first⟩ := alike absent
      rw [nothing, ← here, first]
      rfl

theorem numberedAsFile_iff : NumberedAsFile text ↔
    ∀ index line, (fileLines text)[index]? = some line → ReadWhole (fileLines text) index line := by
  rw [NumberedAsFile, fileFindings, scan_eq_ofLines, ofLines_pieces_eq_iff]
  refine forall₃_congr fun index line _ => ?_
  rw [ofLines_pieces_line_iff, Nat.add_right_inj, seenBefore_eq_iff]
  exact ⟨fun ⟨rest, first⟩ => ⟨rest, first⟩, fun whole => ⟨whole.rest, whole.first⟩⟩

private theorem readWhole_of_unbroken (unbroken : ∀ line ∈ lines, Unbroken line) {index : Nat}
    (listed : lines[index]? = some line) : ReadWhole lines index line := by
  have own : Unbroken line := unbroken line (List.mem_of_getElem? listed)
  have single : pieces line = [line] := List.splitOnP_eq_singleton own
  have whole : firstPiece line = line := List.takeWhile_eq_self_iff.mpr fun c member => by simp [own c member]
  refine ⟨by simp [single], fun _ => ⟨?_, by rw [whole]⟩⟩
  exact fun earlier member => unbroken earlier (List.mem_of_mem_take member)

/-- Each of the further breaks before a finding makes its number too high by one. So a scan has the findings of the file
exactly if the lines that have one are read as a whole and stand before all such breaks, and nothing is found behind a
break; and surely so if there are none. -/
theorem scan_numbers (text : List Char) :
    (∀ finding, finding ∈ Finding.scan text ↔ ∃ index line position piece, (fileLines text)[index]? = some line ∧
      (pieces line)[position]? = some piece ∧
      Finding.ofLine (1 + (seenBefore (fileLines text) index + position)) piece = some finding) ∧
    (NumberedAsFile text ↔
      ∀ index line, (fileLines text)[index]? = some line → ReadWhole (fileLines text) index line) ∧
    ((∀ line ∈ fileLines text, Unbroken line) → NumberedAsFile text) := by
  refine ⟨fun finding => ?_, numberedAsFile_iff, fun unbroken => ?_⟩
  · rw [scan_eq_ofLines, mem_ofLines_pieces]
  · exact numberedAsFile_iff.mpr fun index line listed => readWhole_of_unbroken unbroken listed

def plain : List Char := "// a\r\r\n#include <b.h>\n#include\n".toList

theorem scan_numbers_plain : (∀ line ∈ fileLines plain, Unbroken line) ∧ NumberedAsFile plain ∧
    Finding.directive ⟨3, "<b.h>", "b.h", false⟩ ∈ Finding.scan plain := by
  have unbroken : ∀ line ∈ fileLines plain, Unbroken line := by decide
  obtain ⟨found, -, same⟩ := scan_numbers plain
  refine ⟨unbroken, same unbroken, (found _).mpr ?_⟩
  exact ⟨2, "#include <b.h>".toList, 0, "#include <b.h>".toList, by decide, by decide, by decide⟩

def paged : List Char := "\x0c\n#include \"a.h\"\n".toList

def commented : List Char := "// old:\x0c#include <a.h>\n".toList

theorem not_numberedAsFile : ¬ NumberedAsFile paged ∧ ¬ NumberedAsFile commented := by
  constructor
  · unfold NumberedAsFile
    decide +kernel
  · unfold NumberedAsFile
    decide +kernel

end IncludeGraph.Proofs.LineNumbers
