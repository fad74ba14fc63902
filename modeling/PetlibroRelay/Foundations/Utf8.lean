import Mathlib.Data.List.Basic
import PetlibroRelay.Foundations.Json

namespace PetlibroRelay
namespace Foundations

/-!
# Decoding UTF-8 with replacement

A decoder that never fails: it reads byte by byte, and gives a replacement
character for each longest sequence of bytes that starts a character and cannot be
completed, and for each byte that starts none.  On the encoding of a text it gives
the text back.
-/

namespace Utf8

/-- A character that has been started: how many bytes are missing, between which
bounds the next one lies, and the value so far. -/
structure Pending where
  missing : Nat
  low : Nat
  high : Nat
  value : Nat
  deriving DecidableEq, Repr

def replacement : Char := Char.ofNat 0xFFFD

/-- What a byte gives between characters.  The bounds after some first bytes leave
out overlong forms, surrogates and values that are too large. -/
def firstByte (byte : Nat) : List Char × Option Pending :=
  if byte ≤ 0x7F then ([Char.ofNat byte], none)
  else if 0xC2 ≤ byte ∧ byte ≤ 0xDF then ([], some ⟨1, 0x80, 0xBF, byte - 0xC0⟩)
  else if 0xE0 ≤ byte ∧ byte ≤ 0xEF then
    ([], some ⟨2, if byte = 0xE0 then 0xA0 else 0x80, if byte = 0xED then 0x9F else 0xBF,
      byte - 0xE0⟩)
  else if 0xF0 ≤ byte ∧ byte ≤ 0xF4 then
    ([], some ⟨3, if byte = 0xF0 then 0x90 else 0x80, if byte = 0xF4 then 0x8F else 0xBF,
      byte - 0xF0⟩)
  else ([replacement], none)

/-- What the next byte gives.  A byte that does not continue the character that has been
started begins a new one. -/
def nextByte : Option Pending -> Nat -> List Char × Option Pending
  | none, byte => firstByte byte
  | some pending, byte =>
      if pending.low ≤ byte ∧ byte ≤ pending.high then
        if pending.missing = 1 then ([Char.ofNat (pending.value * 64 + (byte - 0x80))], none)
        else ([], some ⟨pending.missing - 1, 0x80, 0xBF, pending.value * 64 + (byte - 0x80)⟩)
      else (replacement :: (firstByte byte).1, (firstByte byte).2)

/-- The characters of the bytes that are left. -/
def charsFrom : Option Pending -> List UInt8 -> List Char
  | none, [] => []
  | some _, [] => [replacement]
  | pending, byte :: rest =>
      (nextByte pending byte.toNat).1 ++ charsFrom (nextByte pending byte.toNat).2 rest

/-- The text of the bytes. -/
def decode (bytes : List UInt8) : String := String.ofList (charsFrom none bytes)

/-! ## Decoding what was encoded -/

theorem charsFrom_ofNat (pending : Option Pending) {byte : Nat} (small : byte < 256)
    (rest : List UInt8) :
    charsFrom pending (UInt8.ofNat byte :: rest) =
      (nextByte pending byte).1 ++ charsFrom (nextByte pending byte).2 rest := by
  have same : (UInt8.ofNat byte).toNat = byte := by
    rw [UInt8.toNat_ofNat', Nat.mod_eq_of_lt small]
  rw [charsFrom, same]

/-- A byte that continues a character, and is not its last. -/
theorem charsFrom_continue {missing low high value digit : Nat} (small : digit < 64)
    (above : low ≤ digit + 0x80) (below : digit + 0x80 ≤ high) (rest : List UInt8) :
    charsFrom (some ⟨missing + 2, low, high, value⟩) (UInt8.ofNat (digit + 0x80) :: rest) =
      charsFrom (some ⟨missing + 1, 0x80, 0xBF, value * 64 + digit⟩) rest := by
  rw [charsFrom_ofNat _ (by omega), nextByte, if_pos ⟨above, below⟩, if_neg (by simp),
    Nat.add_sub_cancel, List.nil_append]
  rfl

/-- The last byte of a character. -/
theorem charsFrom_last {low high value digit : Nat} (small : digit < 64)
    (above : low ≤ digit + 0x80) (below : digit + 0x80 ≤ high) (rest : List UInt8) :
    charsFrom (some ⟨1, low, high, value⟩) (UInt8.ofNat (digit + 0x80) :: rest) =
      Char.ofNat (value * 64 + digit) :: charsFrom none rest := by
  rw [charsFrom_ofNat _ (by omega), nextByte, if_pos ⟨above, below⟩, if_pos rfl,
    Nat.add_sub_cancel, List.singleton_append]

theorem charsFrom_twoBytes {lead digit : Nat} (low : 2 ≤ lead) (high : lead < 32)
    (small : digit < 64) (rest : List UInt8) :
    charsFrom none (UInt8.ofNat (lead + 0xC0) :: UInt8.ofNat (digit + 0x80) :: rest) =
      Char.ofNat (lead * 64 + digit) :: charsFrom none rest := by
  rw [charsFrom_ofNat _ (by omega), nextByte, firstByte, if_neg (by omega), if_pos (by omega),
    Nat.add_sub_cancel, List.nil_append]
  exact charsFrom_last small (by omega) (by omega) rest

/-- Three bytes.  Overlong forms and surrogates are left out. -/
theorem charsFrom_threeBytes {lead first second : Nat} (bound : lead < 16)
    (smallFirst : first < 64) (smallSecond : second < 64) (long : lead = 0 -> 32 ≤ first)
    (scalar : lead = 13 -> first < 32) (rest : List UInt8) :
    charsFrom none (UInt8.ofNat (lead + 0xE0) :: UInt8.ofNat (first + 0x80) ::
        UInt8.ofNat (second + 0x80) :: rest) =
      Char.ofNat ((lead * 64 + first) * 64 + second) :: charsFrom none rest := by
  rw [charsFrom_ofNat _ (by omega), nextByte, firstByte, if_neg (by omega), if_neg (by omega),
    if_pos (by omega), Nat.add_sub_cancel, List.nil_append]
  rw [charsFrom_continue smallFirst (by split <;> omega) (by split <;> omega)]
  exact charsFrom_last smallSecond (by omega) (by omega) rest

/-- Four bytes.  Overlong forms and values that are too large are left out. -/
theorem charsFrom_fourBytes {lead first second third : Nat} (bound : lead < 5)
    (smallFirst : first < 64) (smallSecond : second < 64) (smallThird : third < 64)
    (long : lead = 0 -> 16 ≤ first) (limit : lead = 4 -> first < 16) (rest : List UInt8) :
    charsFrom none (UInt8.ofNat (lead + 0xF0) :: UInt8.ofNat (first + 0x80) ::
        UInt8.ofNat (second + 0x80) :: UInt8.ofNat (third + 0x80) :: rest) =
      Char.ofNat (((lead * 64 + first) * 64 + second) * 64 + third) :: charsFrom none rest := by
  rw [charsFrom_ofNat _ (by omega), nextByte, firstByte, if_neg (by omega), if_neg (by omega),
    if_neg (by omega), if_pos (by omega), Nat.add_sub_cancel, List.nil_append]
  rw [charsFrom_continue smallFirst (by split <;> omega) (by split <;> omega),
    charsFrom_continue smallSecond (by omega) (by omega)]
  exact charsFrom_last smallThird (by omega) (by omega) rest

/-- A character is decoded from its own encoding. -/
theorem charsFrom_encodeChar (letter : Char) (rest : List UInt8) :
    charsFrom none (String.utf8EncodeChar letter ++ rest) = letter :: charsFrom none rest := by
  have valid : letter.toNat < 0xD800 ∨ 0xDFFF < letter.toNat ∧ letter.toNat < 0x110000 :=
    letter.valid
  have same : Char.ofNat letter.toNat = letter := Char.ofNat_toNat letter
  have value : letter.val.toNat = letter.toNat := rfl
  rw [String.utf8EncodeChar, value]
  split
  · rw [List.singleton_append, charsFrom_ofNat _ (by omega), nextByte, firstByte,
      if_pos (by omega), same, List.singleton_append]
  · split
    · refine (charsFrom_twoBytes (by omega) (by omega) (by omega) rest).trans ?_
      rw [show letter.toNat / 64 % 0x20 * 64 + letter.toNat % 0x40 = letter.toNat by omega, same]
    · split
      · refine (charsFrom_threeBytes (by omega) (by omega) (by omega) (by omega) (by omega)
          rest).trans ?_
        rw [show (letter.toNat / 4096 % 0x10 * 64 + letter.toNat / 64 % 0x40) * 64 +
          letter.toNat % 0x40 = letter.toNat by omega, same]
      · refine (charsFrom_fourBytes (by omega) (by omega) (by omega) (by omega) (by omega)
          (by omega) rest).trans ?_
        rw [show ((letter.toNat / 262144 % 0x08 * 64 + letter.toNat / 4096 % 0x40) * 64 +
          letter.toNat / 64 % 0x40) * 64 + letter.toNat % 0x40 = letter.toNat by omega, same]

theorem charsFrom_encode (letters : List Char) :
    charsFrom none (letters.flatMap String.utf8EncodeChar) = letters := by
  induction letters with
  | nil => rfl
  | cons letter rest inductionHypothesis =>
      rw [List.flatMap_cons, charsFrom_encodeChar, inductionHypothesis]

/-- A text is decoded from its own encoding. -/
theorem decode_utf8 (text : String) : decode (utf8 text) = text := by
  rw [decode, utf8, charsFrom_encode, String.ofList_toList]

end Utf8
end Foundations
end PetlibroRelay
