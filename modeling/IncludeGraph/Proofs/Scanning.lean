import IncludeGraph.Proofs.Encoding
import IncludeGraph.Proofs.Resolution
import Mathlib.Data.List.TakeWhile

/-! How a text of one line is scanned. The line is what stands before the break that ends it, and the token behind a
directive word reaches up to the first blank. -/

namespace IncludeGraph.Proofs.Scanning
open Text Traversal Resolution

def Unbroken (text : List Char) : Prop := ∀ c ∈ text, isBreak c = false

def Unblank (text : List Char) : Prop := ∀ c ∈ text, isBlank c = false

-- Over the text: characters are finitely many, so that an instance search may otherwise go through all of them.
instance : DecidablePred Unbroken := fun text => List.decidableBAll (isBreak · = false) text

instance : DecidablePred Unblank := fun text => List.decidableBAll (isBlank · = false) text

/-- What may follow the only line of a text: nothing, or one break. -/
inductive Ending : List Char → Prop where
  | open : Ending []
  | single {c} (ends : isBreak c = true) : Ending [c]
  | double : Ending ['\r', '\n']

variable {text rest ending : List Char} {c : Char}

theorem isBlank_of_isBreak (ends : isBreak c = true) : isBlank c = true := by
  simp only [isBreak, isBlank, inRanges, breakRanges, blankRanges, List.any_cons, List.any_nil, Bool.or_eq_true,
    Bool.and_eq_true, decide_eq_true_eq, Bool.or_false] at *
  omega

theorem Unblank.unbroken (unblank : Unblank text) : Unbroken text := by
  intro c member
  rw [Bool.eq_false_iff]
  intro ends
  cases (unblank c member).symm.trans (isBlank_of_isBreak ends)

private theorem Unbroken.tail (unbroken : Unbroken (c :: text)) : Unbroken text :=
  fun other member => unbroken other (List.mem_cons_of_mem c member)

private theorem Unbroken.ne_return (unbroken : Unbroken (c :: text)) : c ≠ '\r' := by
  rintro rfl
  cases unbroken '\r' (by simp)

theorem unifyBreaks_append (unbroken : Unbroken text) (rest : List Char) :
    unifyBreaks (text ++ rest) = text ++ unifyBreaks rest := by
  induction text with
  | nil => rfl
  | cons c text ih =>
    have plain := unbroken.ne_return
    simp [unifyBreaks, plain, ih unbroken.tail]

theorem lines_break (ends : isBreak c = true) (unbroken : Unbroken text) : lines (text ++ [c]) = [text] := by
  induction text with
  | nil => simp [lines, ends]
  | cons d text ih =>
    have plain := unbroken.ne_return
    have inside := unbroken d (by simp)
    simp [lines, plain, inside, ih unbroken.tail, consFirst]

theorem lines_unbroken (filled : text ≠ []) (unbroken : Unbroken text) : lines text = [text] := by
  induction text with
  | nil => exact absurd rfl filled
  | cons c text ih =>
    have plain := unbroken.ne_return
    have inside := unbroken c (by simp)
    cases text with
    | nil => simp [lines, inside, consFirst]
    | cons d text => simp [lines, plain, inside, ih (by simp) unbroken.tail, consFirst]

private theorem lines_ending (filled : text ≠ []) (unbroken : Unbroken text) (ended : Ending ending) :
    lines (unifyBreaks (text ++ ending)) = [text] := by
  rw [unifyBreaks_append unbroken]
  cases ended with
  | «open» => simpa [unifyBreaks] using lines_unbroken filled unbroken
  | double => exact lines_break (by decide) unbroken
  | @single c ends =>
    have unified : unifyBreaks [c] = [if c = '\r' then '\n' else c] := by simp [unifyBreaks]
    rw [unified]
    apply lines_break _ unbroken
    split
    · decide
    · exact ends

/-- The file holds one line, which is scanned as it was written. -/
private theorem scan_line (filled : text ≠ []) (unbroken : Unbroken text) (ended : Ending ending) :
    Finding.scan (readText (Utf8.encode (text ++ ending))) = (Finding.ofLine 1 text).toList := by
  rw [readText, Encoding.decode_encode, Finding.scan, lines_ending filled unbroken ended]
  simp [Finding.ofLines]

theorem headWord_append_blank (unblank : Unblank text) (blank : isBlank c = true) :
    headWord (text ++ c :: rest) = text := by
  rw [headWord, List.takeWhile_append_of_pos]
  · simp [blank]
  · exact fun d member => by simp [unblank d member]

theorem headWord_unblank (unblank : Unblank text) : headWord text = text := by
  rw [headWord, List.takeWhile_eq_self_iff]
  exact fun d member => by simp [unblank d member]

/-- The token stands behind the blank that ends the directive word. -/
private theorem token?_written (filled : isBlank c = false) (rest : List Char) :
    Directive.token? (Directive.word ++ ' ' :: c :: rest) = some (headWord (c :: rest)) := by
  have written : Directive.word.isPrefixOf (Directive.word ++ ' ' :: c :: rest) = true := by simp
  have skipped : (Directive.word ++ ' ' :: c :: rest).drop Directive.word.length = ' ' :: c :: rest := by simp
  have alone : headWord (' ' :: c :: rest) = [] := rfl
  have behind : nextWord (' ' :: c :: rest) = headWord (c :: rest) := by
    have blank : isBlank ' ' = true := by decide
    simp [nextWord, blank, filled]
  simp only [Directive.token?, written, skipped, alone, behind, and_self, if_true]

section
variable {name first : List Char}

def angled (name : List Char) : List Char := Directive.word ++ ' ' :: '<' :: (name ++ ['>'])

def angledToken (name : List Char) : List Char := headWord ('<' :: (name ++ ['>']))

theorem isQuoted_angledToken (name : List Char) : Directive.isQuoted (angledToken name) = false := by
  have first : (angledToken name).head? = some '<' := rfl
  simp [Directive.isQuoted, first]

theorem nameOf_unblank (unblank : Unblank name) : Directive.nameOf (angledToken name) = name := by
  have whole : Unblank ('<' :: (name ++ ['>'])) := by
    intro c member
    rcases List.mem_cons.mp member with rfl | inside
    · decide
    rcases List.mem_append.mp inside with named | last
    · exact unblank c named
    · obtain rfl := List.mem_singleton.mp last
      decide
  rw [angledToken, headWord_unblank whole]
  simp [Directive.nameOf]

/-- A blank ends the token, so that the character before it counts as the closing bracket. -/
theorem nameOf_blank (unblank : Unblank first) (blank : isBlank c = true) (rest : List Char) :
    Directive.nameOf (angledToken (first ++ c :: rest)) = first.dropLast := by
  have front : Unblank ('<' :: first) := List.forall_mem_cons.mpr ⟨by decide, unblank⟩
  have cut : angledToken (first ++ c :: rest) = '<' :: first := by
    rw [angledToken, List.append_assoc, List.cons_append, ← List.cons_append]
    exact headWord_append_blank front blank
  rw [cut]
  rfl

private theorem unbroken_angled (unbroken : Unbroken name) : Unbroken (angled name) := by
  have bracket : Unbroken (Directive.word ++ [' ', '<']) := by decide
  have shape : angled name = Directive.word ++ [' ', '<'] ++ (name ++ ['>']) := by simp [angled]
  rw [shape]
  intro c member
  rcases List.mem_append.mp member with front | back
  · exact bracket c front
  rcases List.mem_append.mp back with named | last
  · exact unbroken c named
  · obtain rfl := List.mem_singleton.mp last
    decide

/-- A file of this one line has one directive, unless the token leaves no name. -/
theorem directivesOf_angled (unbroken : Unbroken name) (ended : Ending ending) :
    directivesOf (Utf8.encode (angled name ++ ending)) =
      if Directive.nameOf (angledToken name) = [] then [] else [Directive.ofToken 1 (angledToken name)] := by
  have token : Directive.token? (angled name) = some (angledToken name) := token?_written (by decide) _
  rw [directivesOf, scan_line (by simp [angled]) (unbroken_angled unbroken) ended]
  simp only [Finding.ofLine, token]
  split
  · rfl
  · rfl

end

end IncludeGraph.Proofs.Scanning
