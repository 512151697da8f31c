import IncludeGraph.Proofs.Findings
import IncludeGraph.Proofs.LineEndings

/-! A line feed cuts a file in two parts that are read apart. No sequence of bytes, no break and no line reaches over
it, so that the file has the findings of both parts, those of the second counted on. Ill-formed bytes and malformed
directives therefore matter in their own line only. -/

namespace IncludeGraph.Proofs.LineLocality
open Text Traversal Findings LineEndings

def Closed (bytes : List UInt8) : Prop := bytes = [] ∨ bytes.getLast? = some 0x0A

/-- No sequence goes on with a byte below the continuation bytes. Every byte keeps this, so that a line feed ends
whatever is open and the next line starts anew. -/
def Guarded (state : Option Utf8.Partial) : Prop := ∀ sequence ∈ state, 0x80 ≤ sequence.low

variable {state : Option Utf8.Partial} {finding : Finding} {early late : List UInt8}

private theorem guarded_none : Guarded none := by
  intro sequence opened
  cases opened

private theorem low_of_opens {byte : Nat} {sequence : Utf8.Partial} (leads : Utf8.lead byte = .opens sequence) :
    0x80 ≤ sequence.low := by
  unfold Utf8.lead at leads
  repeat' split at leads
  all_goals simp only [Utf8.Lead.opens.injEq, reduceCtorEq] at leads
  all_goals simp [← leads]

private theorem guarded_start (byte : Nat) : Guarded (Utf8.start byte).2 := by
  intro sequence opened
  unfold Utf8.start at opened
  split at opened
  · simp at opened
  next other leads =>
    obtain rfl := Option.some.inj opened
    exact low_of_opens leads
  · simp at opened

private theorem guarded_advance (state : Option Utf8.Partial) (byte : Nat) : Guarded (Utf8.advance state byte).2 := by
  unfold Utf8.advance
  split
  · exact guarded_start byte
  · split
    · split
      · exact guarded_none
      · intro sequence opened
        rw [← Option.some.inj opened]
        exact Nat.le_refl _
    · exact guarded_start byte

/-- A line feed breaks off the sequence that is open, and is read as itself. -/
private theorem advance_feed (guarded : Guarded state) :
    ∃ before, Utf8.advance state 0x0A = (before ++ ['\n'], none) := by
  cases state with
  | none => exact ⟨[], rfl⟩
  | some sequence =>
    have least := guarded sequence rfl
    have outside : ¬ (sequence.low ≤ 0x0A ∧ 0x0A ≤ sequence.high) := by omega
    refine ⟨[Utf8.replacement], ?_⟩
    simp only [Utf8.advance, if_neg outside]
    rfl

private theorem decodeFrom_cons (state : Option Utf8.Partial) (byte : UInt8) (rest : List UInt8) :
    Utf8.decodeFrom state (byte :: rest) =
      (Utf8.advance state byte.toNat).1 ++ Utf8.decodeFrom (Utf8.advance state byte.toNat).2 rest := by
  cases state <;> rfl

/-- What stands behind a line feed is decoded by itself. -/
private theorem decodeFrom_feed (guarded : Guarded state) (front : List UInt8) :
    ∃ before, ∀ rest, Utf8.decodeFrom state (front ++ 0x0A :: rest) = before ++ '\n' :: Utf8.decode rest := by
  induction front generalizing state with
  | nil =>
    obtain ⟨before, read⟩ := advance_feed guarded
    refine ⟨before, fun rest => ?_⟩
    have feed : (0x0A : UInt8).toNat = 0x0A := rfl
    rw [List.nil_append, decodeFrom_cons, feed, read, List.append_assoc]
    rfl
  | cons byte front ih =>
    obtain ⟨before, read⟩ := ih (guarded_advance state byte.toNat)
    refine ⟨(Utf8.advance state byte.toNat).1 ++ before, fun rest => ?_⟩
    rw [List.cons_append, decodeFrom_cons, read, List.append_assoc]

private theorem apart_append {c d : Char} {front : List Char}
    (apart : ∀ later, c = '\r' → d :: front = '\n' :: later → False) (rest : List Char) :
    ∀ later, c = '\r' → d :: front ++ rest = '\n' :: later → False := by
  intro later same next
  exact apart front same (by rw [(List.cons.inj next).1])

/-- No line goes on behind a line feed. -/
private theorem lines_feed (front : List Char) :
    ∃ first more, ∀ rest, lines (front ++ '\n' :: rest) = first :: more ++ lines rest := by
  have feed : isBreak '\n' = true := by decide
  fun_induction lines front with
  | case1 => exact ⟨[], [], fun rest => by simp [lines, feed]⟩
  | case2 front ih =>
    obtain ⟨first, more, cut⟩ := ih
    exact ⟨[], first :: more, fun rest => by simp [lines, cut]⟩
  | case3 c front apart ends ih =>
    cases front with
    | nil =>
      -- A carriage return before the line feed is one break with it.
      by_cases same : c = '\r'
      · subst same
        exact ⟨[], [], fun rest => by simp [lines]⟩
      · exact ⟨[], [[]], fun rest => by simp [lines, same, ends, feed]⟩
    | cons d front =>
      obtain ⟨first, more, cut⟩ := ih
      refine ⟨[], first :: more, fun rest => ?_⟩
      rw [List.cons_append, lines.eq_3 _ _ (apart_append apart _), if_pos ends, cut]
      rfl
  | case4 c front apart inside ih =>
    cases front with
    | nil =>
      have same : c ≠ '\r' := by
        rintro rfl
        exact inside (by decide)
      exact ⟨[c], [], fun rest => by simp [lines, same, inside, feed, consFirst]⟩
    | cons d front =>
      obtain ⟨first, more, cut⟩ := ih
      refine ⟨c :: first, more, fun rest => ?_⟩
      rw [List.cons_append, lines.eq_3 _ _ (apart_append apart _), if_neg inside, cut]
      rfl

def lineCount (bytes : List UInt8) : Nat := (lines (readText bytes)).length

theorem lines_readText (bytes : List UInt8) : lines (readText bytes) = lines (Utf8.decode bytes) :=
  lines_unifyBreaks _

private theorem lines_readText_append (closed : Closed early) (late : List UInt8) :
    lines (readText (early ++ late)) = lines (readText early) ++ lines (readText late) := by
  simp only [lines_readText]
  rcases closed with rfl | ended
  · rfl
  obtain ⟨front, rfl⟩ := List.getLast?_eq_some_iff.mp ended
  obtain ⟨before, read⟩ := decodeFrom_feed guarded_none front
  obtain ⟨first, more, cut⟩ := lines_feed before
  have decoded : ∀ late, lines (Utf8.decode (front ++ 0x0A :: late)) = first :: more ++ lines (Utf8.decode late) := by
    intro late
    rw [Utf8.decode, read, cut]
  have alone : lines (Utf8.decode []) = [] := rfl
  rw [List.append_assoc, List.singleton_append, decoded, decoded, alone, List.append_nil]

theorem scan_append (closed : Closed early) (late : List UInt8) :
    Finding.scan (readText (early ++ late)) =
      Finding.scan (readText early) ++ (Finding.scan (readText late)).map (behind (lineCount early)) := by
  rw [Finding.scan, lines_readText_append closed, ofLines_one_append]
  rfl

theorem mem_scan_append (closed : Closed early) : finding ∈ Finding.scan (readText (early ++ late)) ↔
    finding ∈ Finding.scan (readText early) ∨
      ∃ own ∈ Finding.scan (readText late), behind (lineCount early) own = finding := by
  rw [scan_append closed, List.mem_append, List.mem_map]

private theorem mem_scan_early (closed : Closed early) (before : finding.line ≤ lineCount early) :
    finding ∈ Finding.scan (readText (early ++ late)) ↔ finding ∈ Finding.scan (readText early) := by
  rw [mem_scan_append closed]
  constructor
  · rintro (found | ⟨own, found, rfl⟩)
    · exact found
    · have least := (line_bounds found).1
      rw [behind_line] at before
      omega
  · exact Or.inl

private theorem mem_scan_late (closed : Closed early) (after : lineCount early < finding.line) :
    finding ∈ Finding.scan (readText (early ++ late)) ↔
      ∃ own ∈ Finding.scan (readText late), behind (lineCount early) own = finding := by
  rw [mem_scan_append closed]
  constructor
  · rintro (found | own)
    · have most := (line_bounds found).2
      unfold lineCount at after
      omega
    · exact own
  · exact Or.inr

/-- A file has the findings of the part up to a line feed and, counted on, those of the rest. So the findings up to
there do not depend on the rest, and those of the rest depend on the part before by its number of lines alone. -/
theorem scan_local :
    (∀ early late, Closed early → Finding.scan (readText (early ++ late)) =
      Finding.scan (readText early) ++ (Finding.scan (readText late)).map (behind (lineCount early))) ∧
    (∀ early late others, Closed early → ∀ finding : Finding, finding.line ≤ lineCount early →
      (finding ∈ Finding.scan (readText (early ++ late)) ↔ finding ∈ Finding.scan (readText (early ++ others)))) ∧
    ∀ early others late, Closed early → Closed others → lineCount early = lineCount others →
      ∀ finding : Finding, lineCount early < finding.line →
        (finding ∈ Finding.scan (readText (early ++ late)) ↔ finding ∈ Finding.scan (readText (others ++ late))) := by
  refine ⟨fun early late closed => scan_append closed late, ?_, ?_⟩
  · intro early late others closed finding before
    rw [mem_scan_early closed before, mem_scan_early closed before]
  · intro early others late closed closedToo same finding after
    rw [mem_scan_late closed after, mem_scan_late closedToo (same ▸ after), same]

def truncated : List UInt8 := Utf8.encode "#include \"".toList ++ [0xF0, 0x9F, 0x98, 0x0A]

def bare : List UInt8 := Utf8.encode "#include\n".toList

def remainder : List UInt8 := 0x80 :: Utf8.encode "\n#include <b.h>".toList

theorem scan_local_truncated : Closed truncated ∧ Closed bare ∧ lineCount truncated = lineCount bare ∧
    Finding.scan (readText (truncated ++ remainder)) =
      [.malformed 1 "#include \"\uFFFD", .directive ⟨3, "<b.h>", "b.h", false⟩] ∧
    Finding.directive ⟨3, "<b.h>", "b.h", false⟩ ∈ Finding.scan (readText (bare ++ remainder)) := by
  have ended : Closed truncated := Or.inr rfl
  have endedToo : Closed bare := Or.inr rfl
  have counts : lineCount truncated = lineCount bare := by decide +kernel
  obtain ⟨together, -, behindFeed⟩ := scan_local
  have found : Finding.scan (readText (truncated ++ remainder)) =
      [.malformed 1 "#include \"\uFFFD", .directive ⟨3, "<b.h>", "b.h", false⟩] := by
    rw [together truncated remainder ended]
    decide +kernel
  refine ⟨ended, endedToo, counts, found, ?_⟩
  apply (behindFeed truncated bare remainder ended endedToo counts _ (by decide +kernel)).mp
  rw [found]
  exact List.mem_cons_of_mem _ List.mem_cons_self

end IncludeGraph.Proofs.LineLocality
