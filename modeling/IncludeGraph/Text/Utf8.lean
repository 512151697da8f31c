/-! UTF-8. Decoding never fails: each maximal ill-formed part of a sequence reads as one replacement
character, and the byte that broke the sequence off is read afresh. -/

namespace IncludeGraph.Text.Utf8

def replacement : Char := '\uFFFD'

/-- An unfinished sequence: the bits so far, the continuation bytes still due, and the bounds of the next one. -/
structure Partial where
  bits : Nat
  due : Nat
  low : Nat
  high : Nat

inductive Lead where
  | char (c : Char)
  | opens (sequence : Partial)
  | invalid

/-- The bounds of the second byte keep out overlong forms, surrogates and values above U+10FFFF. -/
def lead (byte : Nat) : Lead :=
  if byte < 0x80 then .char (Char.ofNat byte)
  else if byte < 0xC2 then .invalid
  else if byte < 0xE0 then .opens ⟨byte - 0xC0, 1, 0x80, 0xBF⟩
  else if byte < 0xF0 then
    .opens ⟨byte - 0xE0, 2, if byte = 0xE0 then 0xA0 else 0x80, if byte = 0xED then 0x9F else 0xBF⟩
  else if byte < 0xF5 then
    .opens ⟨byte - 0xF0, 3, if byte = 0xF0 then 0x90 else 0x80, if byte = 0xF4 then 0x8F else 0xBF⟩
  else .invalid

/-- Adds a continuation byte within the bounds. -/
def Partial.push (sequence : Partial) (byte : Nat) : Partial :=
  ⟨sequence.bits * 64 + (byte - 0x80), sequence.due - 1, 0x80, 0xBF⟩

/-- Reads a byte where a character begins: what it completes, and the sequence it leaves open. -/
def start (byte : Nat) : List Char × Option Partial :=
  match lead byte with
  | .char c => ([c], none)
  | .opens sequence => ([], some sequence)
  | .invalid => ([replacement], none)

/-- Reads one byte in the given state: the characters it completes, and the sequence it leaves open. -/
def advance (state : Option Partial) (byte : Nat) : List Char × Option Partial :=
  match state with
  | none => start byte
  | some sequence =>
    if sequence.low ≤ byte ∧ byte ≤ sequence.high then
      if sequence.due ≤ 1 then ([Char.ofNat (sequence.push byte).bits], none) else ([], some (sequence.push byte))
    else (replacement :: (start byte).1, (start byte).2)

/-- Decodes bytes from a state; a sequence that the end breaks off is one replacement character. -/
def decodeFrom : Option Partial → List UInt8 → List Char
  | none, [] => []
  | some _, [] => [replacement]
  | state, byte :: rest => (advance state byte.toNat).1 ++ decodeFrom (advance state byte.toNat).2 rest

def decode (bytes : List UInt8) : List Char := decodeFrom none bytes

def encodeChar (c : Char) : List Nat :=
  let n := c.toNat
  if n < 0x80 then [n]
  else if n < 0x800 then [0xC0 + n / 64, 0x80 + n % 64]
  else if n < 0x10000 then [0xE0 + n / 4096, 0x80 + n / 64 % 64, 0x80 + n % 64]
  else [0xF0 + n / 262144, 0x80 + n / 4096 % 64, 0x80 + n / 64 % 64, 0x80 + n % 64]

def encode (text : List Char) : List UInt8 := text.flatMap fun c => (encodeChar c).map UInt8.ofNat

def byteLength (text : String) : Nat := (encode text.toList).length

/-- No character takes less than a byte. -/
theorem length_le_byteLength (text : String) : text.toList.length ≤ byteLength text := by
  unfold byteLength encode
  induction text.toList with
  | nil => simp
  | cons c rest ih =>
    have positive : 1 ≤ (encodeChar c).length := by
      simp only [encodeChar]
      repeat' split
      all_goals simp
    simp only [List.flatMap_cons, List.length_append, List.length_map, List.length_cons]
    omega

end IncludeGraph.Text.Utf8
