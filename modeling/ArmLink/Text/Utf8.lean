/-!
Text in UTF-8.  `Utf8.encode` gives the bytes of a text.  `Utf8.decode` reads any bytes: each
longest start of a character that is not completed, and each byte that starts none, becomes one
replacement character, and reading goes on behind it.
-/

namespace ArmLink.Text.Utf8

def encode (text : String) : List UInt8 := text.toUTF8.data.toList

/-- Stands in a text for bytes that are no character. -/
def replacement : Char := '\uFFFD'

/-- What a leading byte promises. -/
structure Lead where
  /-- How many further bytes belong to the character. -/
  count : Nat
  /-- Smallest second byte. -/
  low : Nat
  /-- Largest second byte. -/
  high : Nat
  bits : Nat

/-- Reads the leading byte of a character of several bytes.  The bounds of the second byte leave out
overlong forms, surrogates and numbers above the last character. -/
def Lead.ofByte? (byte : UInt8) : Option Lead :=
  let n := byte.toNat
  if 0xC2 ≤ n ∧ n ≤ 0xDF then some ⟨1, 0x80, 0xBF, n - 0xC0⟩
  else if n = 0xE0 then some ⟨2, 0xA0, 0xBF, n - 0xE0⟩
  else if n = 0xED then some ⟨2, 0x80, 0x9F, n - 0xE0⟩
  else if 0xE1 ≤ n ∧ n ≤ 0xEF then some ⟨2, 0x80, 0xBF, n - 0xE0⟩
  else if n = 0xF0 then some ⟨3, 0x90, 0xBF, n - 0xF0⟩
  else if 0xF1 ≤ n ∧ n ≤ 0xF3 then some ⟨3, 0x80, 0xBF, n - 0xF0⟩
  else if n = 0xF4 then some ⟨3, 0x80, 0x8F, n - 0xF0⟩
  else none

/-- Completes a character: the code point, unless a byte is missing or out of bounds, and the bytes
behind those that fitted. -/
def complete : Nat → Nat → Nat → Nat → List UInt8 → Option Nat × List UInt8
  | 0, _, _, point, bytes => (some point, bytes)
  | _ + 1, _, _, _, [] => (none, [])
  | count + 1, low, high, point, byte :: bytes =>
    if low ≤ byte.toNat ∧ byte.toNat ≤ high then
      complete count 0x80 0xBF (point * 64 + (byte.toNat - 0x80)) bytes
    else
      (none, byte :: bytes)

theorem length_complete (count low high point : Nat) (bytes : List UInt8) :
    (complete count low high point bytes).2.length ≤ bytes.length := by
  induction count generalizing low high point bytes with
  | zero => simp [complete]
  | succ count ih =>
    cases bytes with
    | nil => simp [complete]
    | cons byte bytes =>
      unfold complete
      split
      · exact Nat.le_trans (ih _ _ _ _) (by simp)
      · simp

/-- The characters of any run of bytes. -/
def decodeChars : List UInt8 → List Char
  | [] => []
  | byte :: bytes =>
    if byte.toNat < 0x80 then
      Char.ofNat byte.toNat :: decodeChars bytes
    else
      match Lead.ofByte? byte with
      | none => replacement :: decodeChars bytes
      | some lead =>
        let completed := complete lead.count lead.low lead.high lead.bits bytes
        have := length_complete lead.count lead.low lead.high lead.bits bytes
        (completed.1.map Char.ofNat).getD replacement :: decodeChars completed.2
  termination_by bytes => bytes.length

def decode (bytes : List UInt8) : String := String.ofList (decodeChars bytes)

end ArmLink.Text.Utf8
