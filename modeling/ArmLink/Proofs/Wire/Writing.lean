import ArmLink.Proofs.Wire.Fields

/-!
Values that are read as they were written.

A value is written as the digits of a number that stands for it (`Numbering`).  Reading the digits
gives back the value, and writing a value that was read gives back its bytes.  Records of varying
size are read field by field; `Reads.bind_eq_ok` says when such a reading succeeds.
-/

namespace ArmLink.Wire

variable {α β : Type} {offset : Nat} {bytes front : List UInt8}

/-- Numbers that stand for the values of a type, one for each. -/
structure Numbering (α : Type) [BigEndian α] (number : α → Nat) : Prop where
  small : ∀ value, number value < 1 <<< (8 * BigEndian.width α)
  ofNat_number : ∀ value, BigEndian.ofNat (number value) = value
  number_ofNat : ∀ n, n < 1 <<< (8 * BigEndian.width α) → number (BigEndian.ofNat n) = n

namespace Numbering

theorem uint8 : Numbering UInt8 UInt8.toNat where
  small value := value.toNat_lt
  ofNat_number _ := UInt8.ofNat_toNat
  number_ofNat _ small := UInt8.toNat_ofNat_of_lt' small

theorem uint64 : Numbering UInt64 UInt64.toNat where
  small value := value.toNat_lt
  ofNat_number _ := UInt64.ofNat_toNat
  number_ofNat _ small := UInt64.toNat_ofNat_of_lt' small

theorem int8 : Numbering Int8 (·.toUInt8.toNat) where
  small value := value.toUInt8.toNat_lt
  ofNat_number value := by
    change Int8.ofBitVec (BitVec.ofNat 8 value.toBitVec.toNat) = value
    rw [BitVec.ofNat_toNat, BitVec.setWidth_eq, Int8.ofBitVec_toBitVec]
  number_ofNat n small := by
    change (BitVec.ofNat 8 n).toNat = n
    rw [BitVec.toNat_ofNat]
    exact Nat.mod_eq_of_lt small

theorem uint32 : Numbering UInt32 UInt32.toNat where
  small value := value.toNat_lt
  ofNat_number _ := UInt32.ofNat_toNat
  number_ofNat _ small := UInt32.toNat_ofNat_of_lt' small

theorem int32 : Numbering Int32 (·.toUInt32.toNat) where
  small value := value.toUInt32.toNat_lt
  ofNat_number value := by
    change Int32.ofBitVec (BitVec.ofNat 32 value.toBitVec.toNat) = value
    rw [BitVec.ofNat_toNat, BitVec.setWidth_eq, Int32.ofBitVec_toBitVec]
  number_ofNat n small := by
    change (BitVec.ofNat 32 n).toNat = n
    rw [BitVec.toNat_ofNat]
    exact Nat.mod_eq_of_lt small

variable [BigEndian α] {number : α → Nat}

theorem read (numbering : Numbering α number) (value : α) (rest : List UInt8) :
    fieldAt α 0 (bytesOfNat (BigEndian.width α) (number value) ++ rest) = value := by
  rw [fieldAt, List.drop_zero, List.take_left' (length_bytesOfNat _ _), BigEndian.ofBytes,
    natOfBytes_bytesOfNat, Nat.mod_eq_of_lt (numbering.small value), numbering.ofNat_number]

theorem write (numbering : Numbering α number)
    (inside : offset + BigEndian.width α ≤ bytes.length) :
    bytesOfNat (BigEndian.width α) (number (fieldAt α offset bytes)) =
      (bytes.drop offset).take (BigEndian.width α) := by
  have size : ((bytes.drop offset).take (BigEndian.width α)).length = BigEndian.width α := by
    rw [List.length_take, List.length_drop]
    omega
  have small := natOfBytes_lt ((bytes.drop offset).take (BigEndian.width α))
  rw [size] at small
  rw [fieldAt, BigEndian.ofBytes, numbering.number_ofNat _ small]
  have written := bytesOfNat_natOfBytes ((bytes.drop offset).take (BigEndian.width α))
  rwa [size] at written

end Numbering

theorem fieldAt_append [BigEndian α] (inner : Nat) (size : front.length + inner = offset) :
    fieldAt α offset (front ++ bytes) = fieldAt α inner bytes := by
  rw [← size, ← fieldAt_drop, List.drop_left]

/-- What stands from a place on is a piece and what stands behind it. -/
theorem take_drop_append (first width : Nat) (bytes : List UInt8) :
    (bytes.drop first).take width ++ bytes.drop (first + width) = bytes.drop first := by
  rw [← List.drop_drop, List.take_append_drop]

theorem bytesOfNat_one (byte : UInt8) : bytesOfNat 1 byte.toNat = [byte] := by
  simp [bytesOfNat]

namespace Decoder

theorem run_pure (value : α) (cursor : Cursor) :
    (pure value : Decoder α).run cursor = (.ok value, cursor) := rfl

theorem Reads.bind_eq_ok {decoder : Decoder α} {next : α → Decoder β} {size : Nat}
    {value : List UInt8 → α} (reads : Reads decoder size value) {cursor : Cursor} {result : β} :
    ((decoder >>= next).run cursor).1 = .ok result ↔
      ∃ fits : size ≤ cursor.remaining,
        ((next (value cursor.ahead)).run (cursor.advance size fits)).1 = .ok result := by
  rw [run_bind]
  rcases Nat.lt_or_ge cursor.remaining size with missing | fits
  · obtain ⟨fault, behind, failed⟩ := reads.short cursor missing
    have beyond : ¬ size ≤ cursor.remaining := by omega
    simp [failed, beyond]
  · simp [reads.whole cursor fits, fits]

theorem bind_pure_eq_ok {decoder : Decoder α} {f : α → β} {cursor : Cursor} {result : β} :
    ((do let value ← decoder; return f value : Decoder β).run cursor).1 = .ok result ↔
      ∃ value, (decoder.run cursor).1 = .ok value ∧ f value = result := by
  rw [bind_pure_comp, run_map]
  cases (decoder.run cursor).1 <;> simp [Except.map]

theorem rest_bind (next : List UInt8 → Decoder β) (cursor : Cursor) :
    (Decoder.rest >>= next).run cursor =
      (next cursor.ahead).run (cursor.advance cursor.remaining (Nat.le_refl _)) := by
  have all : Decoder.rest.run cursor =
      (.ok cursor.ahead, cursor.advance cursor.remaining (Nat.le_refl _)) := by
    change (Decoder.bytes cursor.remaining).run cursor = _
    rw [run_bytes, Cursor.next_of_le (Nat.le_refl _), List.take_of_length_le]
    exact Nat.le_of_eq cursor.length_ahead
  rw [run_bind, all]

end Decoder

end ArmLink.Wire
