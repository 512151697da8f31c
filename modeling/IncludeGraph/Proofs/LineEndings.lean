import IncludeGraph.Proofs.Encoding
import IncludeGraph.Proofs.Precision

/-! How the lines of a text end makes no difference. A carriage return ends a line as a line feed does, alone or before
one, so that a text is scanned alike in a string and in a file, and in a file with any of the three endings. -/

namespace IncludeGraph.Proofs.LineEndings
open Text Traversal Precision

inductive LineEnding where
  | feed
  | returnFeed
  | carriage

def LineEnding.chars : LineEnding → List Char
  | feed => ['\n']
  | returnFeed => ['\r', '\n']
  | carriage => ['\r']

def LineEnding.apply (ending : LineEnding) (text : List Char) : List Char :=
  text.flatMap fun c => if c = '\n' then ending.chars else [c]

variable {text rest : List Char}

/-- Both ways of cutting a text agree on what a carriage return is: one break with the line feed behind it, or one by
itself. -/
theorem lines_unifyBreaks (text : List Char) : lines (unifyBreaks text) = lines text := by
  have feed : isBreak '\n' = true := by decide
  have carriage : isBreak '\r' = true := by decide
  fun_induction unifyBreaks text with
  | case1 => rfl
  | case2 rest ih => simp [lines, feed, ih]
  | case3 c rest alone ih =>
    rw [lines.eq_3 c rest alone]
    by_cases same : c = '\r'
    · subst same
      simp [lines, feed, carriage, ih]
    · simp [lines, same, ih]

theorem scan_unifyBreaks (text : List Char) : Finding.scan (unifyBreaks text) = Finding.scan text := by
  rw [Finding.scan, lines_unifyBreaks, Finding.scan]

private theorem scan_stored (text : List Char) : Finding.scan (readText (Utf8.encode text)) = Finding.scan text := by
  rw [readText, Encoding.decode_encode, scan_unifyBreaks]

private theorem unifyBreaks_chars (ending : LineEnding) (apart : ending = .carriage → rest.head? ≠ some '\n') :
    unifyBreaks (ending.chars ++ rest) = '\n' :: unifyBreaks rest := by
  cases ending with
  | feed => simp [LineEnding.chars, unifyBreaks]
  | returnFeed => simp [LineEnding.chars, unifyBreaks]
  | carriage =>
    have other := apart rfl
    cases rest with
    | nil => rfl
    | cons c rest =>
      rw [List.head?_cons, ne_eq, Option.some.injEq] at other
      simp [LineEnding.chars, unifyBreaks, other]

/-- Where every line feed is written as a carriage return, none is left to be taken with the return before it. -/
private theorem head_apply_carriage (text : List Char) : (LineEnding.carriage.apply text).head? ≠ some '\n' := by
  intro first
  obtain ⟨c, -, stands⟩ := List.mem_flatMap.mp (List.mem_of_mem_head? first)
  split at stands
  · cases List.mem_singleton.mp stands
  next other => exact other (List.mem_singleton.mp stands).symm

private theorem unifyBreaks_apply (free : '\r' ∉ text) (ending : LineEnding) :
    unifyBreaks (ending.apply text) = text := by
  induction text with
  | nil => rfl
  | cons c text ih =>
    have plain : c ≠ '\r' := fun same => free (by simp [same])
    have later : '\r' ∉ text := fun member => free (List.mem_cons_of_mem _ member)
    have written : ending.apply (c :: text) = (if c = '\n' then ending.chars else [c]) ++ ending.apply text := rfl
    rw [written]
    split
    next same =>
      rw [unifyBreaks_chars ending fun is => is ▸ head_apply_carriage text, ih later, same]
    next => simp [unifyBreaks, plain, ih later]

theorem scan_apply (free : '\r' ∉ text) (ending : LineEnding) :
    Finding.scan (readText (Utf8.encode (ending.apply text))) = Finding.scan (readText (Utf8.encode text)) := by
  rw [scan_stored, scan_stored, ← scan_unifyBreaks (ending.apply text), unifyBreaks_apply free]

/-- A text has the same directives and malformed lines in a string and in a file, with its breaks as they stand or
unified, and whichever of the three endings its lines have in the file; and the work on the file comes to the same. -/
theorem endings_scan_alike :
    (∀ text, Finding.scan (unifyBreaks text) = Finding.scan text) ∧
    (∀ text, Finding.scan (readText (Utf8.encode text)) = Finding.scan text) ∧
    (∀ text, '\r' ∉ text → ∀ ending : LineEnding,
      Finding.scan (readText (Utf8.encode (ending.apply text))) = Finding.scan (readText (Utf8.encode text))) ∧
    ∀ first second, Alike first second → ∀ path text (ending : LineEnding), '\r' ∉ text →
      first.files.read path = .ok (Utf8.encode text) → second.files.read path = .ok (Utf8.encode (ending.apply text)) →
      (∀ suffix ∈ first.options.companionSuffixes,
        first.files.isFile (companionPath path suffix) = second.files.isFile (companionPath path suffix)) →
      ∀ node present, node.target = .file path present → ∀ state,
        process first state (.listed path) node = process second state (.listed path) node := by
  refine ⟨scan_unifyBreaks, scan_stored, fun text free => scan_apply free, ?_⟩
  intro first second alike path text ending free opens opensToo probes node present own state
  exact process_congr_of_scan alike own opens opensToo (scan_apply free ending).symm (fun _ => probes) state

def mixed : List Char := "#include\x0c#include <a>\n\n#include \"b.h\"\n#include \"c.h\"".toList

def stored (ending : LineEnding) : Surroundings :=
  ⟨⟨["w"], ⟨[(["w"], .directory true), (["w", "m.h"], .file (Utf8.encode (ending.apply mixed)))]⟩⟩, {}, {}⟩

def waitingHeader : Node := { kind := .header, target := .file "/w/m.h" true, status := .queued }

theorem endings_scan_alike_mixed : '\r' ∉ mixed ∧
    Finding.scan (readText (Utf8.encode (LineEnding.carriage.apply mixed))) =
      Finding.scan (readText (Utf8.encode mixed)) ∧
    ∀ state, process (stored .feed) state (.listed "/w/m.h") waitingHeader =
      process (stored .returnFeed) state (.listed "/w/m.h") waitingHeader := by
  have free : '\r' ∉ mixed := by decide
  obtain ⟨-, -, scanned, processed⟩ := endings_scan_alike
  refine ⟨free, scanned mixed free .carriage, ?_⟩
  exact processed (stored .feed) (stored .returnFeed) ⟨rfl, rfl, fun _ => rfl⟩ "/w/m.h" mixed .returnFeed free
    (by decide +kernel) (by decide +kernel) (by decide +kernel) _ true rfl

end IncludeGraph.Proofs.LineEndings
