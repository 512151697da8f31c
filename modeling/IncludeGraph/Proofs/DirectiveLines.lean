import IncludeGraph.Proofs.Findings
import IncludeGraph.Proofs.Scanning

/-! The grammar of directives. A line counts if it begins with the directive word and a blank or nothing follows; the
token is the next run of characters that are not blank, and is used if it leaves a name between its ends. A scan finds
the lines of this grammar, each once and in their order, whoever asks for the malformed ones. -/

namespace IncludeGraph.Proofs.DirectiveLines
open Text Findings Scanning

def Apart (rest : List Char) : Prop := ∀ c ∈ rest.head?, isBlank c = true

/-- A line with a token: the directive word, one blank or more, the token, and nothing or a blank and anything. This
is said by concatenation and does not mention how lines are scanned. -/
def Carries (line token : List Char) : Prop :=
  ∃ blanks rest, line = Directive.word ++ (blanks ++ (token ++ rest)) ∧ blanks ≠ [] ∧
    (∀ c ∈ blanks, isBlank c = true) ∧ Unblank token ∧ Apart rest

/-- The directive word with blanks at most behind it, or with a token of one or two characters, which leaves no name
between its delimiters. -/
inductive Unusable (line : List Char) : Prop where
  | bare {blanks} (shape : line = Directive.word ++ blanks) (blank : ∀ c ∈ blanks, isBlank c = true)
  | short {token} (carries : Carries line token) (length : token.length = 1 ∨ token.length = 2)

variable {line token rest : List Char} {number : Nat} {found : Directive} {content : String}

private theorem headWord_eq_nil_iff : headWord rest = [] ↔ Apart rest := by
  cases rest with
  | nil => simp [headWord, Apart]
  | cons c rest => simp [headWord, Apart]

private theorem headWord_append (unblank : Unblank token) (apart : Apart rest) : headWord (token ++ rest) = token := by
  cases rest with
  | nil => rw [List.append_nil, headWord_unblank unblank]
  | cons c rest => exact headWord_append_blank unblank (apart c rfl)

private theorem apart_of_blank (blank : ∀ c ∈ rest, isBlank c = true) : Apart rest :=
  fun c first => blank c (List.mem_of_mem_head? first)

/-- What is left behind a run of characters that are not blank. -/
private theorem apart_dropWhile (text : List Char) : Apart (text.dropWhile (!isBlank ·)) := by
  intro c first
  have stops := List.head?_dropWhile_not (!isBlank ·) text
  rw [Option.mem_def.mp first] at stops
  simpa using stops

private theorem nextWord_eq_nil_iff : nextWord rest = [] ↔ ∀ c ∈ rest, isBlank c = true := by
  rw [nextWord, headWord_eq_nil_iff, ← List.dropWhile_eq_nil_iff]
  have stops := List.head?_dropWhile_not isBlank rest
  cases dropped : rest.dropWhile isBlank with
  | nil => simp [Apart]
  | cons c tail =>
    rw [dropped] at stops
    have solid : isBlank c = false := by simpa using stops
    simp [Apart, solid]

theorem token?_eq_some_iff : Directive.token? line = some token ↔
    ∃ rest, line = Directive.word ++ rest ∧ Apart rest ∧ nextWord rest = token := by
  unfold Directive.token?
  dsimp only
  constructor
  · intro given
    split at given
    next begins =>
      obtain ⟨rest, rfl⟩ := List.isPrefixOf_iff_prefix.mp begins.1
      rw [List.drop_left] at begins given
      exact ⟨rest, rfl, headWord_eq_nil_iff.mp begins.2, Option.some.inj given⟩
    · cases given
  · rintro ⟨rest, rfl, apart, next⟩
    have begins : Directive.word.isPrefixOf (Directive.word ++ rest) = true :=
      List.isPrefixOf_iff_prefix.mpr (List.prefix_append _ _)
    rw [List.drop_left, if_pos ⟨begins, headWord_eq_nil_iff.mpr apart⟩, next]

private theorem token?_eq_nil_iff : Directive.token? line = some [] ↔
    ∃ blanks, line = Directive.word ++ blanks ∧ ∀ c ∈ blanks, isBlank c = true := by
  rw [token?_eq_some_iff]
  constructor
  · rintro ⟨rest, shape, -, none⟩
    exact ⟨rest, shape, nextWord_eq_nil_iff.mp none⟩
  · rintro ⟨blanks, shape, blank⟩
    exact ⟨blanks, shape, apart_of_blank blank, nextWord_eq_nil_iff.mpr blank⟩

private theorem token?_eq_filled_iff (filled : token ≠ []) :
    Directive.token? line = some token ↔ Carries line token := by
  rw [token?_eq_some_iff]
  constructor
  · rintro ⟨rest, rfl, apart, rfl⟩
    refine ⟨rest.takeWhile isBlank, (rest.dropWhile isBlank).dropWhile (!isBlank ·), ?_, ?_, ?_, ?_, apart_dropWhile _⟩
    · rw [nextWord, headWord, List.takeWhile_append_dropWhile, List.takeWhile_append_dropWhile]
    · cases rest with
      | nil => exact absurd rfl filled
      | cons c rest => simp [apart c rfl]
    · exact fun c member => List.mem_takeWhile_imp member
    · intro c member
      simpa using List.mem_takeWhile_imp member
  · rintro ⟨blanks, rest, rfl, some, blank, unblank, apart⟩
    refine ⟨_, rfl, ?_, ?_⟩
    · cases blanks with
      | nil => exact absurd rfl some
      | cons c blanks => simpa [Apart] using blank c
    · obtain ⟨c, tail, rfl⟩ := List.exists_cons_of_ne_nil filled
      have solid : isBlank c = false := unblank c List.mem_cons_self
      have stops : (c :: tail ++ rest).dropWhile isBlank = c :: tail ++ rest := by simp [solid]
      rw [nextWord, List.dropWhile_append_of_pos blank, stops, headWord_append unblank apart]

private theorem nameOf_eq_nil_iff : Directive.nameOf token = [] ↔ token.length ≤ 2 := by
  rw [← List.length_eq_zero_iff, Directive.nameOf, List.length_dropLast, List.length_drop]
  omega

/-- The ends of a token around its name. -/
private theorem exists_ends (long : 3 ≤ token.length) :
    ∃ first last, token = first :: Directive.nameOf token ++ [last] := by
  obtain ⟨first, rest, rfl⟩ := List.exists_cons_of_length_pos (by omega : 0 < token.length)
  have filled : rest ≠ [] := by
    rintro rfl
    simp at long
  refine ⟨first, rest.getLast filled, ?_⟩
  have whole : Directive.nameOf (first :: rest) = rest.dropLast := rfl
  rw [whole, List.cons_append, List.dropLast_concat_getLast filled]

theorem isQuoted_iff {first last : Char} {name : List Char} :
    Directive.isQuoted (first :: name ++ [last]) = true ↔ first = '"' ∧ last = '"' := by
  have start : (first :: name ++ [last]).head? = some first := rfl
  have stop : (first :: name ++ [last]).getLast? = some last := List.getLast?_concat
  have long : 2 ≤ (first :: name ++ [last]).length := by simp
  simp only [Directive.isQuoted, start, stop, long, Option.some.injEq, Bool.and_eq_true, decide_eq_true_eq, true_and]

/-- The fields of a directive, read off its token. -/
private theorem eq_ofToken_iff (long : 3 ≤ token.length) : found = Directive.ofToken number token ↔
    found.line = number ∧ found.token = String.ofList token ∧
    ∃ first last, token = first :: found.name.toList ++ [last] ∧ (found.quoted = true ↔ first = '"' ∧ last = '"') := by
  constructor
  · rintro rfl
    obtain ⟨first, last, shape⟩ := exists_ends long
    have quoted := @isQuoted_iff first last (Directive.nameOf token)
    rw [← shape] at quoted
    exact ⟨rfl, rfl, first, last, by simpa [Directive.ofToken] using shape, quoted⟩
  · obtain ⟨line, written, name, quotes⟩ := found
    rintro ⟨rfl, rfl, first, last, shape, quoted⟩
    dsimp only at shape quoted
    subst shape
    have named : Directive.nameOf (first :: name.toList ++ [last]) = name.toList := by simp [Directive.nameOf]
    have same : quotes = Directive.isQuoted (first :: name.toList ++ [last]) :=
      Bool.eq_iff_iff.mpr (quoted.trans isQuoted_iff.symm)
    rw [Directive.ofToken, named, String.ofList_toList, same]

theorem ofLine_directive_iff : Finding.ofLine number line = some (.directive found) ↔
    ∃ token, Carries line token ∧ 3 ≤ token.length ∧ found = Directive.ofToken number token := by
  unfold Finding.ofLine
  constructor
  · intro given
    split at given
    · cases given
    next token read =>
      split at given
      · cases given
      next named =>
        rw [nameOf_eq_nil_iff, Nat.not_le] at named
        have filled : token ≠ [] := List.ne_nil_of_length_pos (by omega)
        have same := Finding.directive.inj (Option.some.inj given)
        exact ⟨token, (token?_eq_filled_iff filled).mp read, named, same.symm⟩
  · rintro ⟨token, carries, long, rfl⟩
    have filled : token ≠ [] := List.ne_nil_of_length_pos (by omega)
    have named : Directive.nameOf token ≠ [] := fun none => by
      have short := nameOf_eq_nil_iff.mp none
      omega
    simp only [(token?_eq_filled_iff filled).mpr carries, if_neg named]

theorem unusable_iff : Unusable line ↔ ∃ token, Directive.token? line = some token ∧ token.length ≤ 2 := by
  constructor
  · intro unusable
    cases unusable with
    | bare shape blank => exact ⟨[], token?_eq_nil_iff.mpr ⟨_, shape, blank⟩, by simp⟩
    | @short token carries length =>
      have filled : token ≠ [] := List.ne_nil_of_length_pos (by omega)
      exact ⟨token, (token?_eq_filled_iff filled).mpr carries, by omega⟩
  · rintro ⟨token, read, short⟩
    by_cases filled : token = []
    · rw [filled] at read
      obtain ⟨blanks, shape, blank⟩ := token?_eq_nil_iff.mp read
      exact .bare shape blank
    · have some := List.length_pos_of_ne_nil filled
      exact .short ((token?_eq_filled_iff filled).mp read) (by omega)

theorem ofLine_malformed_iff {other : Nat} : Finding.ofLine number line = some (.malformed other content) ↔
    Unusable line ∧ other = number ∧ content = String.ofList line := by
  rw [unusable_iff]
  unfold Finding.ofLine
  constructor
  · intro given
    split at given
    · cases given
    next token read =>
      split at given
      next unnamed =>
        obtain ⟨rfl, rfl⟩ := Finding.malformed.inj (Option.some.inj given)
        exact ⟨⟨token, read, nameOf_eq_nil_iff.mp unnamed⟩, rfl, rfl⟩
      · cases given
  · rintro ⟨⟨token, read, short⟩, rfl, rfl⟩
    simp only [read, if_pos (nameOf_eq_nil_iff.mpr short)]

/-- The directives are delivered whoever receives the malformed lines, and a receiver gets each of them in turn. -/
theorem deliver_eq {kept : Type} (receive? : Option (kept → Nat → String → kept)) (state : kept)
    (findings : List Finding) : Finding.deliver receive? state findings =
      (findings.filterMap Finding.directive?, (receive?.map fun receive =>
        (findings.filterMap Finding.malformed?).foldl (fun state report => receive state report.1 report.2) state).getD
          state) := by
  induction findings generalizing state with
  | nil => cases receive? <;> rfl
  | cons finding rest ih =>
    cases finding with
    | directive found =>
      rw [Finding.deliver, ih]
      rfl
    | malformed number content =>
      cases receive? with
      | none => exact ih state
      | some receive => exact ih (receive state number content)

theorem mem_directives {findings : List Finding} :
    found ∈ findings.filterMap Finding.directive? ↔ .directive found ∈ findings := by
  rw [List.mem_filterMap]
  constructor
  · rintro ⟨finding, member, same⟩
    cases finding with
    | directive own => rwa [← Option.some.inj same]
    | malformed number content => cases same
  · exact fun member => ⟨_, member, rfl⟩

theorem mem_reports {findings : List Finding} :
    (number, content) ∈ findings.filterMap Finding.malformed? ↔ .malformed number content ∈ findings := by
  rw [List.mem_filterMap]
  constructor
  · rintro ⟨finding, member, same⟩
    cases finding with
    | directive own => cases same
    | malformed own text =>
      obtain ⟨rfl, rfl⟩ := Prod.mk.inj (Option.some.inj same)
      exact member
  · exact fun member => ⟨_, member, rfl⟩

private theorem line_of_directive? {finding : Finding} (same : finding.directive? = some found) :
    finding.line = found.line := by
  cases finding with
  | directive own => rw [← Option.some.inj same, Finding.line]
  | malformed number content => cases same

private theorem line_of_malformed? {finding : Finding} {report : Nat × String}
    (same : finding.malformed? = some report) : finding.line = report.1 := by
  cases finding with
  | directive own => cases same
  | malformed number content => rw [← Option.some.inj same, Finding.line]

/-- The directives and the malformed lines of a text are those of the grammar, each once and in order. The grammar is
said of single lines, so that this tells all that a scan can find. -/
structure Scanned (text : List Char) (directives : List Directive) (reports : List (Nat × String)) : Prop where
  directive_iff : ∀ found, found ∈ directives ↔ ∃ index line token, (lines text)[index]? = some line ∧
    Carries line token ∧ 3 ≤ token.length ∧ found.line = index + 1 ∧ found.token = String.ofList token ∧
    ∃ first last, token = first :: found.name.toList ++ [last] ∧ (found.quoted = true ↔ first = '"' ∧ last = '"')
  report_iff : ∀ number content, (number, content) ∈ reports ↔ ∃ index line, (lines text)[index]? = some line ∧
    Unusable line ∧ number = index + 1 ∧ content = String.ofList line
  directives_ascending : directives.Pairwise fun found later => found.line < later.line
  reports_ascending : reports.Pairwise fun report later => report.1 < later.1
  /-- A line with a directive is not reported. -/
  apart : ∀ found ∈ directives, ∀ report ∈ reports, found.line ≠ report.1

/-- A scan accepts the grammar and nothing else, and whether the malformed lines are asked for makes no difference to
the directives. -/
theorem scan_grammar (text : List Char) :
    Scanned text ((Finding.scan text).filterMap Finding.directive?) ((Finding.scan text).filterMap Finding.malformed?) ∧
    ∀ (kept : Type) (state : kept),
      Finding.deliver none state (Finding.scan text) = ((Finding.scan text).filterMap Finding.directive?, state) ∧
      ∀ receive, Finding.deliver (some receive) state (Finding.scan text) =
        ((Finding.scan text).filterMap Finding.directive?, ((Finding.scan text).filterMap Finding.malformed?).foldl
          (fun state report => receive state report.1 report.2) state) := by
  have ascending := ofLines_ascending 1 (lines text)
  refine ⟨⟨?_, ?_, ?_, ?_, ?_⟩, fun kept state => ⟨deliver_eq none state _, ?_⟩⟩
  · intro found
    rw [mem_directives, Finding.scan, mem_ofLines]
    constructor
    · rintro ⟨index, line, there, read⟩
      obtain ⟨token, carries, long, same⟩ := ofLine_directive_iff.mp read
      rw [Nat.add_comm, eq_ofToken_iff long] at same
      exact ⟨index, line, token, there, carries, long, same⟩
    · rintro ⟨index, line, token, there, carries, long, same⟩
      rw [← eq_ofToken_iff long, Nat.add_comm] at same
      exact ⟨index, line, there, ofLine_directive_iff.mpr ⟨token, carries, long, same⟩⟩
  · intro number content
    rw [mem_reports, Finding.scan, mem_ofLines]
    simp only [ofLine_malformed_iff, Nat.add_comm 1]
  · refine ascending.filterMap _ ?_
    intro finding later before found same other sameOther
    rwa [line_of_directive? same, line_of_directive? sameOther] at before
  · refine ascending.filterMap _ ?_
    intro finding later before report same other sameOther
    rwa [line_of_malformed? same, line_of_malformed? sameOther] at before
  -- A line has one finding at most.
  · rintro found directive ⟨number, content⟩ report same
    cases eq_of_line_eq (mem_directives.mp directive) (mem_reports.mp report) same
  · exact fun receive => deliver_eq (some receive) state _

/-- Not a directive, since no blank parts the token from the word; a name with a bracket; a token without a name. -/
example : Finding.scan "#include\"a.h\"\n#include\u00A0<b>x\n#include <> c\n".toList =
    [.directive ⟨2, "<b>x", "b>", false⟩, .malformed 3 "#include <> c"] := by decide +kernel

end IncludeGraph.Proofs.DirectiveLines
