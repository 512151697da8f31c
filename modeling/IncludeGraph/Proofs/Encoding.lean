import IncludeGraph.Text.Utf8
import Mathlib.Tactic.Common

/-! A text that is written as UTF-8 reads as it was written. Each character is the lead byte of a sequence and the
continuation bytes that the lead byte calls for, all of them within the bounds that reading sets. -/

namespace IncludeGraph.Proofs.Encoding
open Text.Utf8

variable {sequence : Partial} {byte bits n due low high : Nat}

private theorem toNat_ofNat (small : byte < 256) : (UInt8.ofNat byte).toNat = byte := by
  simpa using Nat.mod_eq_of_lt small

section
variable (rest : List UInt8)

private theorem decodeFrom_char {c : Char} (small : byte < 256) (whole : lead byte = .char c) :
    decodeFrom none (UInt8.ofNat byte :: rest) = c :: decodeFrom none rest := by
  rw [decodeFrom, toNat_ofNat small]
  simp [advance, start, whole]

private theorem decodeFrom_opens (small : byte < 256) (opens : lead byte = .opens sequence) :
    decodeFrom none (UInt8.ofNat byte :: rest) = decodeFrom (some sequence) rest := by
  rw [decodeFrom, toNat_ofNat small]
  simp [advance, start, opens]

/-- A continuation byte adds six bits to a sequence. -/
private theorem push_eq (grown : bits * 64 + (byte - 0x80) = n) :
    Partial.push ⟨bits, due + 1, low, high⟩ byte = ⟨n, due, 0x80, 0xBF⟩ := by
  unfold Partial.push
  dsimp only
  rw [grown]
  rfl

private theorem decodeFrom_continues (small : byte < 256) (lower : low ≤ byte) (upper : byte ≤ high)
    (grown : bits * 64 + (byte - 0x80) = n) :
    decodeFrom (some ⟨bits, due + 2, low, high⟩) (UInt8.ofNat byte :: rest) =
      decodeFrom (some ⟨n, due + 1, 0x80, 0xBF⟩) rest := by
  rw [decodeFrom, toNat_ofNat small, advance, if_pos ⟨lower, upper⟩, push_eq grown]
  simp

private theorem decodeFrom_completes (small : byte < 256) (lower : low ≤ byte) (upper : byte ≤ high)
    (grown : bits * 64 + (byte - 0x80) = n) :
    decodeFrom (some ⟨bits, 1, low, high⟩) (UInt8.ofNat byte :: rest) = Char.ofNat n :: decodeFrom none rest := by
  rw [decodeFrom, toNat_ofNat small, advance, if_pos ⟨lower, upper⟩, push_eq grown]
  simp

private theorem decodeFrom_two (least : 0x80 ≤ n) (most : n < 0x800) :
    decodeFrom none (UInt8.ofNat (0xC0 + n / 64) :: UInt8.ofNat (0x80 + n % 64) :: rest) =
      Char.ofNat n :: decodeFrom none rest := by
  have opens : lead (0xC0 + n / 64) = .opens ⟨n / 64, 1, 0x80, 0xBF⟩ := by
    have bits : 0xC0 + n / 64 - 0xC0 = n / 64 := by omega
    rw [lead, if_neg (by omega), if_neg (by omega), if_pos (by omega), bits]
  rw [decodeFrom_opens _ (by omega) opens]
  exact decodeFrom_completes rest (by omega) (by omega) (by omega) (by omega)

/-- The bounds of the second byte hold since the number is not below those of three bytes and no surrogate. -/
private theorem decodeFrom_three (least : 0x800 ≤ n) (most : n < 0x10000) (scalar : n < 0xD800 ∨ 0xDFFF < n) :
    decodeFrom none (UInt8.ofNat (0xE0 + n / 4096) :: UInt8.ofNat (0x80 + n / 64 % 64) ::
      UInt8.ofNat (0x80 + n % 64) :: rest) = Char.ofNat n :: decodeFrom none rest := by
  have opens : lead (0xE0 + n / 4096) = .opens ⟨n / 4096, 2, if 0xE0 + n / 4096 = 0xE0 then 0xA0 else 0x80,
      if 0xE0 + n / 4096 = 0xED then 0x9F else 0xBF⟩ := by
    have bits : 0xE0 + n / 4096 - 0xE0 = n / 4096 := by omega
    rw [lead, if_neg (by omega), if_neg (by omega), if_neg (by omega), if_pos (by omega), bits]
  have lower : (if 0xE0 + n / 4096 = 0xE0 then 0xA0 else 0x80) ≤ 0x80 + n / 64 % 64 := by split <;> omega
  have upper : 0x80 + n / 64 % 64 ≤ if 0xE0 + n / 4096 = 0xED then 0x9F else 0xBF := by split <;> omega
  have grown : n / 4096 * 64 + (0x80 + n / 64 % 64 - 0x80) = n / 64 := by omega
  rw [decodeFrom_opens _ (by omega) opens, decodeFrom_continues _ (by omega) lower upper grown]
  exact decodeFrom_completes rest (by omega) (by omega) (by omega) (by omega)

private theorem decodeFrom_four (least : 0x10000 ≤ n) (most : n < 0x110000) :
    decodeFrom none (UInt8.ofNat (0xF0 + n / 262144) :: UInt8.ofNat (0x80 + n / 4096 % 64) ::
      UInt8.ofNat (0x80 + n / 64 % 64) :: UInt8.ofNat (0x80 + n % 64) :: rest) =
        Char.ofNat n :: decodeFrom none rest := by
  have opens : lead (0xF0 + n / 262144) = .opens ⟨n / 262144, 3,
      if 0xF0 + n / 262144 = 0xF0 then 0x90 else 0x80, if 0xF0 + n / 262144 = 0xF4 then 0x8F else 0xBF⟩ := by
    have bits : 0xF0 + n / 262144 - 0xF0 = n / 262144 := by omega
    rw [lead, if_neg (by omega), if_neg (by omega), if_neg (by omega), if_neg (by omega), if_pos (by omega), bits]
  have lower : (if 0xF0 + n / 262144 = 0xF0 then 0x90 else 0x80) ≤ 0x80 + n / 4096 % 64 := by split <;> omega
  have upper : 0x80 + n / 4096 % 64 ≤ if 0xF0 + n / 262144 = 0xF4 then 0x8F else 0xBF := by split <;> omega
  have grown : n / 262144 * 64 + (0x80 + n / 4096 % 64 - 0x80) = n / 4096 := by omega
  have further : n / 4096 * 64 + (0x80 + n / 64 % 64 - 0x80) = n / 64 := by omega
  rw [decodeFrom_opens _ (by omega) opens, decodeFrom_continues _ (by omega) lower upper grown,
    decodeFrom_continues _ (by omega) (by omega) (by omega) further]
  exact decodeFrom_completes rest (by omega) (by omega) (by omega) (by omega)

theorem decodeFrom_encodeChar (c : Char) :
    decodeFrom none ((encodeChar c).map UInt8.ofNat ++ rest) = c :: decodeFrom none rest := by
  have scalar : c.toNat < 0xD800 ∨ 0xDFFF < c.toNat ∧ c.toNat < 0x110000 := c.valid
  have whole : Char.ofNat c.toNat = c := Char.ofNat_toNat c
  simp only [encodeChar]
  split
  next one =>
    have ascii : lead c.toNat = .char c := by rw [lead, if_pos one, whole]
    exact decodeFrom_char rest (by omega) ascii
  split
  next least most => exact (decodeFrom_two rest (by omega) most).trans (by rw [whole])
  split
  next least most => exact (decodeFrom_three rest (by omega) most (by omega)).trans (by rw [whole])
  next least => exact (decodeFrom_four rest (by omega) (by omega)).trans (by rw [whole])

end

theorem decode_encode (text : List Char) : decode (encode text) = text := by
  unfold decode encode
  induction text with
  | nil => rfl
  | cons c rest ih => rw [List.flatMap_cons, decodeFrom_encodeChar, ih]

end IncludeGraph.Proofs.Encoding
