/-!
# Reading bytes as text

A byte sequence is text when it is valid UTF-8. Otherwise the fault tells where the longest valid
beginning ends and how many bytes there cannot belong to a character; when the bytes merely stop
inside a character there is no such number.
-/

namespace Rulebook.Text

/-- Where and how a byte sequence stops being UTF-8. -/
structure Utf8Fault where
  index : Nat
  length : Option Nat
  deriving Repr, DecidableEq

def Utf8Fault.message (f : Utf8Fault) : String :=
  match f.length with
  | some n => s!"invalid utf-8 sequence of {n} bytes from index {f.index}"
  | none => s!"incomplete utf-8 byte sequence from index {f.index}"

/-- Whether a byte continues a character. -/
def isContinuation (b : UInt8) : Bool := 0x80 ≤ b && b ≤ 0xBF

/-- What a first byte asks of the second byte, and how many bytes follow the second. -/
def leadByte (b : UInt8) : Option ((UInt8 × UInt8) × Nat) :=
  if 0xC2 ≤ b && b ≤ 0xDF then some ((0x80, 0xBF), 0)
  else if b = 0xE0 then some ((0xA0, 0xBF), 1)
  else if b = 0xED then some ((0x80, 0x9F), 1)
  else if 0xE1 ≤ b && b ≤ 0xEF then some ((0x80, 0xBF), 1)
  else if b = 0xF0 then some ((0x90, 0xBF), 2)
  else if 0xF1 ≤ b && b ≤ 0xF3 then some ((0x80, 0xBF), 2)
  else if b = 0xF4 then some ((0x80, 0x8F), 2)
  else none

/-- The first fault of a byte sequence that starts at an index. `pending` is what the character
begun earlier still needs: its start, the bytes read of it, the bounds of its next byte and the
number of continuation bytes after that. -/
def faultFrom : Nat → Option (Nat × Nat × (UInt8 × UInt8) × Nat) → List UInt8 → Option Utf8Fault
  | _, none, [] => none
  | _, some (start, _, _, _), [] => some ⟨start, none⟩
  | i, none, b :: bs =>
    if b < 0x80 then faultFrom (i + 1) none bs
    else match leadByte b with
      | none => some ⟨i, some 1⟩
      | some (bounds, more) => faultFrom (i + 1) (some (i, 1, bounds, more)) bs
  | i, some (start, read, bounds, more), b :: bs =>
    if bounds.1 ≤ b && b ≤ bounds.2 then
      match more with
      | 0 => faultFrom (i + 1) none bs
      | more + 1 => faultFrom (i + 1) (some (start, read + 1, (0x80, 0xBF), more)) bs
    else some ⟨start, some read⟩

def utf8Fault (bytes : ByteArray) : Utf8Fault :=
  (faultFrom 0 none bytes.toList).getD ⟨0, none⟩

/-- The text that the bytes encode. -/
def decodeUtf8 (bytes : ByteArray) : Except Utf8Fault String :=
  match String.fromUTF8? bytes with
  | some s => .ok s
  | none => .error (utf8Fault bytes)

/-- Bytes are read as the text that they encode, and as no other. -/
theorem decodeUtf8_eq_ok_iff {bytes : ByteArray} {s : String} :
    decodeUtf8 bytes = .ok s ↔ s.toUTF8 = bytes := by
  unfold decodeUtf8 String.fromUTF8?
  by_cases h : bytes.IsValidUTF8
  · rw [dif_pos h, Except.ok.injEq, ← String.toByteArray_inj]
    exact eq_comm
  · rw [dif_neg h]
    exact iff_of_false (by simp) fun hs => h (hs ▸ s.isValidUTF8)

end Rulebook.Text
