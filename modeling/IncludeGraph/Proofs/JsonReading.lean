import IncludeGraph.Json.Print
import IncludeGraph.Json.Read
import Mathlib.Tactic.Common

/-! A JSON value can be read from its text. Printing keeps to ASCII, and whatever text surrounds the strings of a value,
reading gives the value back: characters come back from their escapes, and layout is skipped. -/

namespace IncludeGraph.Proofs.JsonReading
open Json

theorem json_induction {motive : Json → Prop} (null : motive .null) (bool : ∀ holds, motive (.bool holds))
    (number : ∀ n, motive (.number n)) (string : ∀ text, motive (.string text))
    (array : ∀ items, (∀ item ∈ items, motive item) → motive (.array items))
    (object : ∀ members, (∀ member ∈ members, motive member.2) → motive (.object members)) (value : Json) :
    motive value :=
  @Json.rec motive (fun items => ∀ item ∈ items, motive item) (fun members => ∀ member ∈ members, motive member.2)
    (fun member => motive member.2) null bool number string array object (by simp)
    (fun _ _ first later => List.forall_mem_cons.mpr ⟨first, later⟩) (by simp)
    (fun _ _ first later => List.forall_mem_cons.mpr ⟨first, later⟩) (fun _ _ holds => holds) value

/-- The written forms of a character: itself if it is printable ASCII, a letter behind a backslash, or one or two
units. -/
inductive Escapes (c : Char) : List Char → Prop where
  | short {letter : Char} (known : unescape? letter = some c) (apart : letter ≠ 'u') (ascii : letter.toNat < 128) :
    Escapes c ['\\', letter]
  | plain (quote : c ≠ '"') (backslash : c ≠ '\\') (printable : 0x20 ≤ c.toNat) (ascii : c.toNat < 128) : Escapes c [c]
  | unit (small : c.toNat < 0x10000) : Escapes c ('\\' :: 'u' :: Text.hex 4 c.toNat)
  | pair (large : 0x10000 ≤ c.toNat) : Escapes c ('\\' :: 'u' :: Text.hex 4 (0xD800 + (c.toNat - 0x10000) / 0x400) ++
      '\\' :: 'u' :: Text.hex 4 (0xDC00 + (c.toNat - 0x10000) % 0x400))

private theorem escapes_escape (c : Char) : Escapes c (escape c) := by
  unfold escape
  -- Of the characters with a letter of their own, only these two are printable, so that their tests are kept.
  refine iteInduction ?_ fun quote => iteInduction ?_ fun backslash => ?_
  iterate 2
    rintro rfl
    exact .short rfl (by decide) (by decide)
  iterate 5
    refine iteInduction ?_ fun _ => ?_
    · rintro rfl
      exact .short rfl (by decide) (by decide)
  refine iteInduction ?_ fun _ => iteInduction ?_ fun large => ?_
  · intro printable
    simp only [Bool.and_eq_true, decide_eq_true_eq] at printable
    exact .plain quote backslash printable.1 (by omega)
  · exact .unit
  · exact .pair (by omega)
section
variable {a b c d e f g h : Char} {unit first second : Nat} {text rest after : List Char}

private theorem hexDigit?_digitChar : ∀ n < 16, hexDigit? (Nat.digitChar n) = some n := by decide

private theorem exists_hex (n : Nat) (small : n < 0x10000) :
    ∃ a b c d, Text.hex 4 n = [a, b, c, d] ∧ hex4? a b c d = some n := by
  refine ⟨_, _, _, _, rfl, ?_⟩
  simp only [hex4?, hexDigit?_digitChar _ (Nat.mod_lt _ (by decide : 0 < 16)), Option.bind_eq_bind, Option.bind_some,
    Option.pure_def, Option.some.injEq]
  omega

/-- A unit that is no half of a pair is a character of its own, whatever follows it. -/
private theorem readString_unit (read : hex4? a b c d = some unit) (alone : (isLeading unit || isTrailing unit) = false)
    (later : readString rest = some (text, after)) :
    readString ('\\' :: 'u' :: a :: b :: c :: d :: rest) = some (Char.ofNat unit :: text, after) := by
  rw [Bool.or_eq_false_iff] at alone
  -- The reader looks whether a second unit follows, before it knows what the first one is.
  by_cases further : ∃ e f g h end_, rest = '\\' :: 'u' :: e :: f :: g :: h :: end_
  · obtain ⟨e, f, g, h, end_, rfl⟩ := further
    simp [readString.eq_3, read, alone, later]
  · have apart : ∀ e f g h end_, rest ≠ '\\' :: 'u' :: e :: f :: g :: h :: end_ := by
      intro e f g h end_ same
      exact further ⟨e, f, g, h, end_, same⟩
    simp [readString.eq_4 _ _ _ _ _ apart, read, alone, later]

private theorem readString_pair (readFirst : hex4? a b c d = some first) (leading : isLeading first = true)
    (readSecond : hex4? e f g h = some second) (trailing : isTrailing second = true)
    (later : readString rest = some (text, after)) :
    readString ('\\' :: 'u' :: a :: b :: c :: d :: '\\' :: 'u' :: e :: f :: g :: h :: rest) =
      some (Char.ofNat (0x10000 + (first - 0xD800) * 0x400 + (second - 0xDC00)) :: text, after) := by
  simp [readString.eq_3, readFirst, leading, readSecond, trailing, later]

/-- A backslash and a letter other than `u` stand for one character. -/
private theorem readString_short {letter meant : Char} (known : unescape? letter = some meant) (apart : letter ≠ 'u')
    (later : readString rest = some (text, after)) :
    readString ('\\' :: letter :: rest) = some (meant :: text, after) := by
  rw [readString.eq_5 _ _ (fun _ _ _ _ _ _ _ _ _ same => absurd same apart) fun _ _ _ _ _ same => absurd same apart,
    known, later]
  rfl

private theorem readString_escape (c : Char) (later : readString rest = some (text, after)) :
    readString (escape c ++ rest) = some (c :: text, after) := by
  have scalar : c.toNat < 0xD800 ∨ 0xDFFF < c.toNat ∧ c.toNat < 0x110000 := c.valid
  have whole : Char.ofNat c.toNat = c := Char.ofNat_toNat c
  have form := escapes_escape c
  generalize escape c = written at form ⊢
  cases form with
  | short known apart => exact readString_short known apart later
  | plain quote backslash printable =>
    rw [List.singleton_append, readString.eq_6 _ _ quote (fun _ _ _ _ _ _ _ _ _ same => absurd same backslash)
      (fun _ _ _ _ _ same => absurd same backslash) fun _ _ same => absurd same backslash,
      if_neg (Nat.not_lt.mpr printable), later]
    rfl
  | unit small =>
    obtain ⟨w, x, y, z, digits, read⟩ := exists_hex _ small
    have alone : (isLeading c.toNat || isTrailing c.toNat) = false := by
      simp only [isLeading, isTrailing, Bool.or_eq_false_iff, Bool.and_eq_false_iff, decide_eq_false_iff_not]
      omega
    rw [digits]
    exact (readString_unit read alone later).trans (by rw [whole])
  | pair large =>
    have leading : isLeading (0xD800 + (c.toNat - 0x10000) / 0x400) = true := by
      simp only [isLeading, Bool.and_eq_true, decide_eq_true_eq]
      omega
    have trailing : isTrailing (0xDC00 + (c.toNat - 0x10000) % 0x400) = true := by
      simp only [isTrailing, Bool.and_eq_true, decide_eq_true_eq]
      omega
    obtain ⟨s, t, u, v, firstDigits, readFirst⟩ := exists_hex (0xD800 + (c.toNat - 0x10000) / 0x400) (by omega)
    obtain ⟨w, x, y, z, secondDigits, readSecond⟩ := exists_hex (0xDC00 + (c.toNat - 0x10000) % 0x400) (by omega)
    have joined : 0x10000 + (0xD800 + (c.toNat - 0x10000) / 0x400 - 0xD800) * 0x400
        + (0xDC00 + (c.toNat - 0x10000) % 0x400 - 0xDC00) = c.toNat := by omega
    rw [firstDigits, secondDigits]
    exact (readString_pair readFirst leading readSecond trailing later).trans (by rw [joined, whole])

/-- A string ends at the quote that was put behind it. -/
private theorem readString_printed (text rest : List Char) :
    readString (text.flatMap escape ++ '"' :: rest) = some (text, rest) := by
  induction text with
  | nil => rw [List.flatMap_nil, List.nil_append, readString]
  | cons c text ih =>
    rw [List.flatMap_cons, List.append_assoc]
    exact readString_escape c ih

end

/-- A span of what passes the test ends at the first item that does not. -/
theorem span_append {α : Type} {test : α → Bool} {front rest : List α} (passes : ∀ item ∈ front, test item = true)
    (ended : ∀ item ∈ rest.head?, test item = false) :
    (front ++ rest).takeWhile test = front ∧ (front ++ rest).dropWhile test = rest := by
  have stops : rest.takeWhile test = [] ∧ rest.dropWhile test = rest := by
    cases rest with
    | nil => simp
    | cons item rest => simp [ended item rfl]
  rw [List.takeWhile_append_of_pos passes, List.dropWhile_append_of_pos passes, stops.1, stops.2, List.append_nil]
  exact ⟨rfl, rfl⟩

def opens (c : Char) : Bool := c.isDigit || ['"', '[', '\x7b', 'n', 't', 'f'].contains c

/-- A value is read from its text at any level, to any sufficient depth and with anything behind it but a digit, which
would go on with a number. This is strong enough for an induction over the value. -/
def Legible (value : Json) : Prop :=
  ∀ level depth rest, (printAt level value).length ≤ depth → (∀ c ∈ rest.head?, c.isDigit = false) →
    readValue depth (printAt level value ++ rest) = some (value, rest)

variable {value : Json} {c : Char} {text rest : List Char} {level closing depth : Nat}

private theorem skipSpace_newline (level : Nat) (text : List Char) :
    skipSpace (newline level ++ text) = skipSpace text := by
  have blanks : skipSpace (List.replicate (2 * level) ' ' ++ text) = skipSpace text := by
    induction 2 * level with
    | zero => rfl
    | succ width ih => exact ih
  exact blanks

private theorem skipSpace_of_opens (start : opens c = true) : skipSpace (c :: text) = c :: text := by
  have filled : ¬ (c = ' ' || c = '\n' || c = '\r' || c = '\t') = true := by
    simp only [Bool.or_eq_true, decide_eq_true_eq]
    rintro (((rfl | rfl) | rfl) | rfl)
    all_goals exact absurd start (by decide)
  exact List.dropWhile_cons_of_neg filled

private theorem isDigit_of_mem_digits (n : Nat) : ∀ c ∈ Nat.toDigits 10 n, c.isDigit = true :=
  fun _ => Nat.isDigit_of_mem_toDigits (by decide) (by decide)

private theorem exists_digit (n : Nat) : ∃ c tail, Nat.toDigits 10 n = c :: tail ∧ c.isDigit = true := by
  obtain ⟨c, tail, digits⟩ := List.exists_cons_of_ne_nil (Nat.toDigits_ne_nil (b := 10) (n := n))
  exact ⟨c, tail, digits, isDigit_of_mem_digits n c (digits ▸ List.mem_cons_self)⟩

private theorem exists_opens (value : Json) (level : Nat) :
    ∃ c tail, printAt level value = c :: tail ∧ opens c = true := by
  cases value with
  | null => exact ⟨_, _, rfl, by decide⟩
  | bool holds =>
    cases holds
    · exact ⟨_, _, rfl, by decide⟩
    · exact ⟨_, _, rfl, by decide⟩
  | number n =>
    obtain ⟨c, tail, digits, digit⟩ := exists_digit n
    exact ⟨c, tail, digits, by simp [opens, digit]⟩
  | string text => exact ⟨_, _, rfl, by decide⟩
  | array items =>
    cases items with
    | nil => exact ⟨_, _, rfl, by decide⟩
    | cons item rest => exact ⟨_, _, rfl, by decide⟩
  | object members =>
    cases members with
    | nil => exact ⟨_, _, rfl, by decide⟩
    | cons member rest => exact ⟨_, _, rfl, by decide⟩

private theorem skipSpace_printAt (value : Json) (level : Nat) (rest : List Char) :
    skipSpace (printAt level value ++ rest) = printAt level value ++ rest := by
  obtain ⟨c, tail, shape, start⟩ := exists_opens value level
  rw [shape, List.cons_append, skipSpace_of_opens start]

private theorem exists_depth (value : Json) (deep : (printAt level value).length ≤ depth) :
    ∃ within, depth = within + 1 := by
  obtain ⟨c, tail, shape, -⟩ := exists_opens value level
  rw [shape, List.length_cons] at deep
  exact ⟨depth - 1, by omega⟩

/-- Layout in front of a value does not matter. -/
private theorem readValue_congr {other : List Char} (same : skipSpace text = skipSpace other) (depth : Nat) :
    readValue depth text = readValue depth other := by
  cases depth with
  | zero => rfl
  | succ depth => rw [readValue, readValue, same]

private theorem readItems_newline (depth level : Nat) (text : List Char) :
    readItems depth (newline level ++ text) = readItems depth text := by
  cases depth with
  | zero => rfl
  | succ depth => rw [readItems, readItems, readValue_congr (skipSpace_newline level text)]

private theorem readMembers_newline (depth level : Nat) (text : List Char) :
    readMembers depth (newline level ++ text) = readMembers depth text := by
  cases depth with
  | zero => rfl
  | succ depth => rw [readMembers, readMembers, skipSpace_newline]

private theorem readWord_append (word : String) (value : Json) (rest : List Char) :
    readWord word value (word.toList ++ rest) = some (value, rest) := by
  have front : word.toList.isPrefixOf (word.toList ++ rest) = true := List.isPrefixOf_iff_prefix.mpr ⟨rest, rfl⟩
  have behind : (word.toList ++ rest).drop word.length = rest := List.drop_left' String.length_toList
  rw [readWord, if_pos front, behind]

private theorem legible_null : Legible .null := by
  intro level depth rest deep _
  obtain ⟨depth, rfl⟩ := exists_depth _ deep
  rw [readValue, skipSpace_printAt]
  exact readWord_append "null" .null rest

private theorem legible_bool (holds : Bool) : Legible (.bool holds) := by
  intro level depth rest deep _
  obtain ⟨depth, rfl⟩ := exists_depth _ deep
  rw [readValue, skipSpace_printAt]
  cases holds
  · exact readWord_append "false" (.bool false) rest
  · exact readWord_append "true" (.bool true) rest

/-- No number but zero begins with a zero. -/
private theorem head?_toDigits (n : Nat) (positive : 0 < n) : (Nat.toDigits 10 n).head? ≠ some '0' := by
  have digitChar : ∀ digit < 10, 0 < digit → some (Nat.digitChar digit) ≠ some '0' := by decide
  induction n using Nat.strongRecOn with
  | ind n ih =>
    rw [Nat.toDigits_eq_if (by decide)]
    by_cases single : n < 10
    · rw [if_pos single]
      exact digitChar n single positive
    · obtain ⟨first, more, front⟩ := List.exists_cons_of_ne_nil (Nat.toDigits_ne_nil (b := 10) (n := n / 10))
      have earlier := ih (n / 10) (by omega) (by omega)
      rw [front] at earlier
      rw [if_neg single, front, List.cons_append]
      exact earlier

theorem readNumber_toDigits (n : Nat) (ended : ∀ c ∈ rest.head?, c.isDigit = false) :
    readNumber (Nat.toDigits 10 n ++ rest) = some (.number n, rest) := by
  have span := span_append (isDigit_of_mem_digits n) ended
  have proper : (Nat.toDigits 10 n).head? = some '0' → Nat.toDigits 10 n = ['0'] := by
    intro zero
    rcases Nat.eq_zero_or_pos n with rfl | positive
    · rfl
    · exact absurd zero (head?_toDigits n positive)
  unfold readNumber
  rw [span.1, span.2]
  simpa [Nat.toDigits_ne_nil, Nat.ofDigitChars_ten_toDigits] using proper

private theorem legible_number (n : Nat) : Legible (.number n) := by
  intro level depth rest deep ended
  obtain ⟨depth, rfl⟩ := exists_depth _ deep
  obtain ⟨digit, more, digits, isDigit⟩ := exists_digit n
  have first : ∀ c tail, Nat.toDigits 10 n ++ rest = c :: tail → c.isDigit = true := by
    intro c tail shape
    rw [digits, List.cons_append] at shape
    exact (List.cons.inj shape).1 ▸ isDigit
  rw [readValue, skipSpace_printAt, printAt]
  split
  iterate 6
    -- A value of another kind begins with no digit.
    next shape => exact absurd (first _ _ shape) (by decide)
  next => exact readNumber_toDigits n ended

private theorem legible_string (text : String) : Legible (.string text) := by
  intro level depth rest deep _
  obtain ⟨depth, rfl⟩ := exists_depth _ deep
  have shape : printAt level (.string text) ++ rest = '"' :: (text.toList.flatMap escape ++ '"' :: rest) := by
    simp [printAt, printString]
  rw [readValue, skipSpace_printAt, shape]
  simp [readString_printed]

/-- What follows an item of an array or object goes on with no number. -/
private theorem ended_items (items : List Json) (level closing : Nat) (rest : List Char) :
    ∀ c ∈ (printItems level items ++ (newline closing ++ rest)).head?, c.isDigit = false := by
  cases items with
  | nil => simp [printItems, newline]
  | cons item items => simp [printItems]

private theorem ended_members (members : List (String × Json)) (level closing : Nat) (rest : List Char) :
    ∀ c ∈ (printMembers level members ++ (newline closing ++ rest)).head?, c.isDigit = false := by
  cases members with
  | nil => simp [printMembers, newline]
  | cons member members => simp [printMembers]

section
variable {item : Json} {items : List Json} {name : List Char} {members : List (String × Json)} {behind after : List Char}

private theorem readItems_last (read : readValue depth text = some (item, rest))
    (closes : skipSpace rest = ']' :: after) : readItems (depth + 1) text = some ([item], after) := by
  simp [readItems, read, closes]

private theorem readItems_next (read : readValue depth text = some (item, rest))
    (comma : skipSpace rest = ',' :: behind)
    (later : readItems depth behind = some (items, after)) :
    readItems (depth + 1) text = some (item :: items, after) := by
  simp [readItems, read, comma, later]

private theorem readMembers_last (start : skipSpace text = '"' :: rest)
    (named : readString rest = some (name, ':' :: behind))
    (read : readValue depth behind = some (value, after)) {last : List Char} (closes : skipSpace after = '\x7d' :: last) :
    readMembers (depth + 1) text = some ([(String.ofList name, value)], last) := by
  have colon : skipSpace (':' :: behind) = ':' :: behind := rfl
  simp [readMembers, start, named, colon, read, closes]

private theorem readMembers_next (start : skipSpace text = '"' :: rest)
    (named : readString rest = some (name, ':' :: behind))
    (read : readValue depth behind = some (value, after)) {further last : List Char}
    (comma : skipSpace after = ',' :: further) (later : readMembers depth further = some (members, last)) :
    readMembers (depth + 1) text = some ((String.ofList name, value) :: members, last) := by
  have colon : skipSpace (':' :: behind) = ':' :: behind := rfl
  simp [readMembers, start, named, colon, read, comma, later]

private theorem readValue_array (filled : skipSpace text = c :: rest) (start : opens c = true)
    (read : readItems depth (c :: rest) = some (items, after)) :
    readValue (depth + 1) ('[' :: text) = some (.array items, after) := by
  have inside : c ≠ ']' := by
    rintro rfl
    exact absurd start (by decide)
  have bracket : skipSpace ('[' :: text) = '[' :: text := rfl
  rw [readValue, bracket]
  simp [filled, inside, read]

private theorem readValue_object (filled : skipSpace text = '"' :: rest)
    (read : readMembers depth ('"' :: rest) = some (members, after)) :
    readValue (depth + 1) ('\x7b' :: text) = some (.object members, after) := by
  have brace : skipSpace ('\x7b' :: text) = '\x7b' :: text := rfl
  rw [readValue, brace]
  simp [filled, read]

private theorem printItems_cons (level : Nat) (item : Json) (items : List Json) (rest : List Char) :
    printItems level (item :: items) ++ rest =
      ',' :: (newline level ++ (printAt level item ++ (printItems level items ++ rest))) := by
  simp [printItems]

private theorem printMembers_cons (level : Nat) (name : String) (value : Json) (members : List (String × Json))
    (rest : List Char) : printMembers level ((name, value) :: members) ++ rest =
      ',' :: (newline level ++ (printString name ++
        (':' :: ' ' :: (printAt level value ++ (printMembers level members ++ rest))))) := by
  simp [printMembers]

/-- The items of an array, each behind a line break, are read up to the closing bracket. -/
private theorem readItems_printItems (depth level closing : Nat) (rest : List Char)
    (legible : ∀ other ∈ item :: items, Legible other)
    (deep : (printAt level item ++ printItems level items).length < depth) :
    readItems depth (printAt level item ++ (printItems level items ++ (newline closing ++ ']' :: rest))) =
      some (item :: items, rest) := by
  induction items generalizing item depth with
  | nil =>
    obtain ⟨depth, rfl⟩ : ∃ within, depth = within + 1 := ⟨depth - 1, by omega⟩
    rw [List.length_append] at deep
    have read := legible item (by simp) level depth _ (by omega) (ended_items [] level closing (']' :: rest))
    exact readItems_last read (skipSpace_newline closing (']' :: rest))
  | cons next items ih =>
    obtain ⟨depth, rfl⟩ : ∃ within, depth = within + 1 := ⟨depth - 1, by omega⟩
    simp only [printItems, List.length_append, List.length_cons] at deep
    have read := legible item (by simp) level depth _ (by omega)
      (ended_items (next :: items) level closing (']' :: rest))
    have comma : skipSpace (printItems level (next :: items) ++ (newline closing ++ ']' :: rest)) = _ :=
      congrArg skipSpace (printItems_cons level next items _)
    refine readItems_next read comma ?_
    rw [readItems_newline]
    exact ih depth (fun other member => legible other (List.mem_cons_of_mem _ member)) (by rw [List.length_append]; omega)

private theorem printString_append (name : String) (rest : List Char) :
    printString name ++ rest = '"' :: (name.toList.flatMap escape ++ '"' :: rest) := by
  simp [printString]

/-- The members of an object likewise. -/
private theorem readMembers_printMembers {name : String} (depth level closing : Nat) (rest : List Char)
    (legible : ∀ member ∈ (name, value) :: members, Legible member.2)
    (deep : (printAt level value ++ printMembers level members).length < depth) :
    readMembers depth (printString name ++ (':' :: ' ' :: (printAt level value ++
      (printMembers level members ++ (newline closing ++ '\x7d' :: rest))))) =
        some ((name, value) :: members, rest) := by
  -- The blank behind a colon is skipped like any layout.
  have spaced : ∀ depth text, readValue depth (' ' :: text) = readValue depth text := by
    intro depth text
    have blank : skipSpace (' ' :: text) = skipSpace text := rfl
    exact readValue_congr blank depth
  induction members generalizing name value depth with
  | nil =>
    obtain ⟨depth, rfl⟩ : ∃ within, depth = within + 1 := ⟨depth - 1, by omega⟩
    have first : Legible value := legible (name, value) (by simp)
    rw [List.length_append] at deep
    have read := first level depth _ (by omega) (ended_members [] level closing ('\x7d' :: rest))
    have last := readMembers_last (skipSpace_of_opens (by decide)) (readString_printed name.toList _)
      ((spaced depth _).trans read) (skipSpace_newline closing ('\x7d' :: rest))
    rwa [String.ofList_toList, ← printString_append] at last
  | cons next members ih =>
    obtain ⟨depth, rfl⟩ : ∃ within, depth = within + 1 := ⟨depth - 1, by omega⟩
    have first : Legible value := legible (name, value) (by simp)
    simp only [printMembers, List.length_append, List.length_cons] at deep
    have read := first level depth _ (by omega) (ended_members (next :: members) level closing ('\x7d' :: rest))
    have comma : skipSpace (printMembers level (next :: members) ++ (newline closing ++ '\x7d' :: rest)) = _ :=
      congrArg skipSpace (printMembers_cons level next.1 next.2 members _)
    have later := ih depth (fun other member => legible other (List.mem_cons_of_mem _ member))
      (by rw [List.length_append]; omega)
    rw [← readMembers_newline depth level] at later
    have whole := readMembers_next (skipSpace_of_opens (by decide)) (readString_printed name.toList _)
      ((spaced depth _).trans read) comma later
    rwa [String.ofList_toList, ← printString_append] at whole

private theorem legible_array {items : List Json} (legible : ∀ item ∈ items, Legible item) :
    Legible (.array items) := by
  intro level depth rest deep _
  obtain ⟨depth, rfl⟩ := exists_depth _ deep
  cases items with
  | nil =>
    rw [readValue, skipSpace_printAt]
    rfl
  | cons item items =>
    obtain ⟨c, tail, shape, start⟩ := exists_opens item (level + 1)
    simp only [printAt, List.length_append, List.length_cons] at deep
    have read := readItems_printItems depth (level + 1) level rest legible
      (by rw [List.length_append]; omega)
    rw [shape, List.cons_append] at read
    -- Behind the bracket the reader looks for a closing one, which the first character of an item is not.
    have filled := skipSpace_newline (level + 1) (printAt (level + 1) item ++
      (printItems (level + 1) items ++ (newline level ++ ']' :: rest)))
    rw [skipSpace_printAt, shape, List.cons_append] at filled
    have whole := readValue_array filled start read
    simpa [printAt, shape] using whole

private theorem legible_object {members : List (String × Json)} (legible : ∀ member ∈ members, Legible member.2) :
    Legible (.object members) := by
  intro level depth rest deep _
  obtain ⟨depth, rfl⟩ := exists_depth _ deep
  cases members with
  | nil =>
    rw [readValue, skipSpace_printAt]
    rfl
  | cons member members =>
    obtain ⟨name, value⟩ := member
    simp only [printAt, List.length_append, List.length_cons] at deep
    have read := readMembers_printMembers depth (level + 1) level rest legible
      (by rw [List.length_append]; omega)
    rw [printString_append] at read
    have filled := skipSpace_newline (level + 1) ('"' :: (name.toList.flatMap escape ++ '"' :: ':' :: ' ' ::
      (printAt (level + 1) value ++ (printMembers (level + 1) members ++ (newline level ++ '\x7d' :: rest)))))
    have whole := readValue_object (filled.trans (skipSpace_of_opens (by decide))) read
    simpa only [printAt, printString_append, List.cons_append, List.append_assoc, List.nil_append] using whole

end

theorem legible (value : Json) : Legible value := by
  induction value using json_induction with
  | null => exact legible_null
  | bool holds => exact legible_bool holds
  | number n => exact legible_number n
  | string text => exact legible_string text
  | array items ih => exact legible_array ih
  | object members ih => exact legible_object ih

theorem read?_print (value : Json) : read? value.print = some value := by
  have text : value.print.toList = printAt 0 value := String.toList_ofList
  have deep : (printAt 0 value).length ≤ value.print.length + 1 := by
    rw [← text, String.length_toList]
    exact Nat.le_succ _
  have read := legible value 0 _ [] deep (by simp)
  rw [List.append_nil] at read
  rw [read?, text, read, Option.bind_eq_bind, Option.bind_some]
  exact if_pos rfl

def Ascii (text : List Char) : Prop := ∀ c ∈ text, c.toNat < 128

private theorem ascii_append {text rest : List Char} :
    Ascii (text ++ rest) ↔ Ascii text ∧ Ascii rest := List.forall_mem_append

private theorem ascii_cons {c : Char} {text : List Char} :
    Ascii (c :: text) ↔ c.toNat < 128 ∧ Ascii text := List.forall_mem_cons

private theorem ascii_nil : Ascii [] := by simp [Ascii]

private theorem ascii_newline (level : Nat) : Ascii (newline level) := by
  intro c member
  rcases List.mem_cons.mp member with rfl | blank
  · decide
  · rw [List.eq_of_mem_replicate blank]
    decide

private theorem ascii_digitChar : ∀ n < 16, (Nat.digitChar n).toNat < 128 := by decide

private theorem ascii_hex (width n : Nat) : Ascii (Text.hex width n) := by
  induction width generalizing n with
  | zero => exact ascii_nil
  | succ width ih =>
    have digit := ascii_digitChar (n % 16) (Nat.mod_lt _ (by decide))
    exact ascii_append.mpr ⟨ih _, ascii_cons.mpr ⟨digit, ascii_nil⟩⟩

private theorem ascii_escape (c : Char) : Ascii (escape c) := by
  have unit : ∀ n, Ascii ('\\' :: 'u' :: Text.hex 4 n) :=
    fun n => ascii_cons.mpr ⟨by decide, ascii_cons.mpr ⟨by decide, ascii_hex 4 n⟩⟩
  have form := escapes_escape c
  generalize escape c = written at form ⊢
  cases form with
  | short _ _ ascii => exact ascii_cons.mpr ⟨by decide, ascii_cons.mpr ⟨ascii, ascii_nil⟩⟩
  | plain _ _ _ ascii => exact ascii_cons.mpr ⟨ascii, ascii_nil⟩
  | unit => exact unit _
  | pair => exact ascii_append.mpr ⟨unit _, unit _⟩

private theorem ascii_printString (text : String) : Ascii (printString text) := by
  have inside : Ascii (text.toList.flatMap escape) := by
    intro c member
    obtain ⟨original, -, written⟩ := List.mem_flatMap.mp member
    exact ascii_escape original c written
  exact ascii_cons.mpr ⟨by decide, ascii_append.mpr ⟨inside, ascii_cons.mpr ⟨by decide, ascii_nil⟩⟩⟩

private theorem ascii_printItems {items : List Json} (each : ∀ item ∈ items, ∀ level, Ascii (printAt level item))
    (level : Nat) : Ascii (printItems level items) := by
  induction items with
  | nil => exact ascii_nil
  | cons item items ih =>
    obtain ⟨first, later⟩ := List.forall_mem_cons.mp each
    simp [printItems, ascii_append, ascii_cons, ascii_newline, first, ih later]

private theorem ascii_printMembers {members : List (String × Json)}
    (each : ∀ member ∈ members, ∀ level, Ascii (printAt level member.2)) (level : Nat) :
    Ascii (printMembers level members) := by
  induction members with
  | nil => exact ascii_nil
  | cons member members ih =>
    obtain ⟨first, later⟩ := List.forall_mem_cons.mp each
    simp [printMembers, ascii_append, ascii_cons, ascii_newline, ascii_printString, first, ih later]

theorem ascii_printAt (value : Json) (level : Nat) : Ascii (printAt level value) := by
  induction value using json_induction generalizing level with
  | null => simp [printAt, Ascii]
  | bool holds => cases holds <;> simp [printAt, Ascii]
  | number n =>
    intro c member
    have digit := isDigit_of_mem_digits n c member
    simp only [Char.isDigit, Bool.and_eq_true, decide_eq_true_eq, ge_iff_le, UInt32.le_iff_toNat_le] at digit
    exact Nat.lt_of_le_of_lt digit.2 (by decide)
  | string text => exact ascii_printString text
  | array items ih =>
    cases items with
    | nil => simp [printAt, Ascii]
    | cons item items =>
      have items := ascii_printItems (fun other member => ih other (List.mem_cons_of_mem _ member)) (level + 1)
      simp [printAt, ascii_append, ascii_cons, ascii_nil, ascii_newline, ih item, items]
  | object members ih =>
    cases members with
    | nil => simp [printAt, Ascii]
    | cons member members =>
      have members := ascii_printMembers (fun other member => ih other (List.mem_cons_of_mem _ member)) (level + 1)
      simp [printAt, ascii_append, ascii_cons, ascii_nil, ascii_newline, ascii_printString, ih member, members]

end IncludeGraph.Proofs.JsonReading
