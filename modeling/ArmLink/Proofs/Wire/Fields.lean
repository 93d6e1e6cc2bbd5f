import ArmLink.Proofs.Wire.Inside
import Mathlib.Data.List.Induction

/-!
Fields at fixed places.

Most records on the wire have a fixed size and their fields at fixed offsets.  A decoder `Reads` such
a record if it succeeds exactly when enough bytes are left, moves over them, and answers a value that
they alone decide.  The value is given as a function of the bytes, so that the offsets of a record
can be written down beside its decoder (`fieldAt`); records put one behind the other are read one
after the other (`Reads.bind`), and their sizes add.
-/

namespace ArmLink.Wire

variable {α β : Type}

/-- The value whose bytes begin at an offset. -/
def fieldAt (α : Type) [BigEndian α] (offset : Nat) (bytes : List UInt8) : α :=
  BigEndian.ofBytes α ((bytes.drop offset).take (BigEndian.width α))

@[simp] theorem fieldAt_drop [BigEndian α] (offset start : Nat) (bytes : List UInt8) :
    fieldAt α offset (bytes.drop start) = fieldAt α (start + offset) bytes := by
  simp [fieldAt]

/-! ### Numbers of several bytes -/

theorem natOfBytes_lt (bytes : List UInt8) : natOfBytes bytes < 1 <<< (8 * bytes.length) := by
  induction bytes using List.reverseRecOn with
  | nil => decide
  | append_singleton bytes byte ih =>
    have digit := byte.toNat_lt
    have base : 1 <<< (8 * (bytes.length + 1)) = 1 <<< (8 * bytes.length) * 256 := by
      rw [Nat.mul_succ, Nat.shiftLeft_add, Nat.shiftLeft_eq _ 8]
    rw [natOfBytes_append_singleton, List.length_append, List.length_singleton, base]
    omega

/-- The bytes of a number that was read are the bytes it was read from. -/
theorem bytesOfNat_natOfBytes (bytes : List UInt8) :
    bytesOfNat bytes.length (natOfBytes bytes) = bytes := by
  induction bytes using List.reverseRecOn with
  | nil => rfl
  | append_singleton bytes byte ih =>
    have digit := byte.toNat_lt
    have front : (natOfBytes bytes * 256 + byte.toNat) / 256 = natOfBytes bytes := by omega
    have last : UInt8.ofNat (natOfBytes bytes * 256 + byte.toNat) = byte := by
      apply UInt8.toNat_inj.mp
      rw [UInt8.toNat_ofNat']
      omega
    rw [natOfBytes_append_singleton, List.length_append, List.length_singleton, bytesOfNat, front,
      last, ih]

/-- A signed number of 32 bits that is not negative is written in one way. -/
theorem toInt_ofBytes_eq_iff {bytes : List UInt8} {value : Nat} (four : bytes.length = 4)
    (small : value < 2147483648) :
    (BigEndian.ofBytes Int32 bytes).toInt = value ↔ bytes = bytesOfNat 4 value := by
  have bound : natOfBytes bytes < 4294967296 := by
    have bound := natOfBytes_lt bytes
    rw [four] at bound
    exact bound
  have read : (BigEndian.ofBytes Int32 bytes).toInt =
      if 2 * natOfBytes bytes < 4294967296 then (natOfBytes bytes : Int)
      else natOfBytes bytes - 4294967296 := by
    change (BitVec.ofNat 32 (natOfBytes bytes)).toInt = _
    rw [BitVec.toInt_eq_toNat_cond, BitVec.toNat_ofNat, Nat.mod_eq_of_lt bound]
    rfl
  rw [read]
  constructor
  · intro same
    have number : natOfBytes bytes = value := by split at same <;> omega
    rw [← number, ← four, bytesOfNat_natOfBytes]
  · rintro rfl
    have number : natOfBytes (bytesOfNat 4 value) = value := by
      rw [natOfBytes_bytesOfNat]
      exact Nat.mod_eq_of_lt (Nat.lt_trans small (by decide))
    rw [number]
    split <;> omega

namespace Cursor

variable {cursor : Cursor}

theorem eq_of_position {other : Cursor} (bytes : cursor.bytes = other.bytes)
    (position : cursor.position = other.position) : cursor = other := by
  cases cursor
  cases other
  simp_all

@[simp] theorem ahead_advance (count : Nat) (fits : count ≤ cursor.remaining) :
    (cursor.advance count fits).ahead = cursor.ahead.drop count := by
  simp [ahead, advance]

theorem advance_advance {first second : Nat} (fits : first ≤ cursor.remaining)
    (fitsToo : second ≤ (cursor.advance first fits).remaining)
    (both : first + second ≤ cursor.remaining) :
    (cursor.advance first fits).advance second fitsToo = cursor.advance (first + second) both := by
  apply eq_of_position
  · rfl
  · simp [advance, Nat.add_assoc]

theorem atEnd_iff : cursor.atEnd = true ↔ cursor.ahead = [] := by
  rw [atEnd, beq_iff_eq, ← length_ahead, List.length_eq_zero_iff]

end Cursor

namespace Decoder

/-- A decoder that reads a record of a fixed size. -/
structure Reads (decoder : Decoder α) (size : Nat) (value : List UInt8 → α) : Prop where
  whole : ∀ (cursor : Cursor) (fits : size ≤ cursor.remaining),
    decoder.run cursor = (.ok (value cursor.ahead), cursor.advance size fits)
  short : ∀ cursor : Cursor, cursor.remaining < size →
    ∃ fault behind, decoder.run cursor = (.error fault, behind)
  /-- The value is decided by the bytes that the record takes. -/
  value_append : ∀ bytes rest, size ≤ bytes.length → value (bytes ++ rest) = value bytes

theorem Reads.congr {decoder : Decoder α} {size least : Nat} {value other : List UInt8 → α}
    (reads : Reads decoder size value) (sizes : size = least)
    (values : ∀ bytes, value bytes = other bytes) : Reads decoder least other := by
  obtain rfl : value = other := funext values
  rw [← sizes]
  exact reads

theorem Reads.pure (value : α) : Reads (Pure.pure value) 0 fun _ => value where
  whole _ _ := rfl
  short _ missing := absurd missing (Nat.not_lt_zero _)
  value_append _ _ _ := rfl

theorem Reads.bytes (count : Nat) : Reads (bytes count) count fun ahead => ahead.take count := by
  constructor
  · intro cursor fits
    rw [run_bytes, Cursor.next_of_le fits]
  · intro cursor missing
    rw [run_bytes, Cursor.next_of_lt missing]
    exact ⟨_, _, rfl⟩
  · intro bytes rest fits
    exact List.take_append_of_le_length fits

theorem Reads.bind {decoder : Decoder α} {next : α → Decoder β} {size more : Nat}
    {value : List UInt8 → α} {later : α → List UInt8 → β} (first : Reads decoder size value)
    (second : ∀ found, Reads (next found) more (later found)) :
    Reads (decoder >>= next) (size + more) fun ahead =>
      later (value ahead) (ahead.drop size) := by
  constructor
  · intro cursor fits
    have fitsFirst : size ≤ cursor.remaining := by omega
    have fitsMore : more ≤ (cursor.advance size fitsFirst).remaining := by
      rw [Cursor.remaining_advance]
      omega
    rw [run_bind, first.whole cursor fitsFirst]
    dsimp only
    rw [(second _).whole _ fitsMore, Cursor.ahead_advance, Cursor.advance_advance]
  · intro cursor missing
    rw [run_bind]
    rcases Nat.lt_or_ge cursor.remaining size with missingFirst | fitsFirst
    · obtain ⟨fault, behind, failed⟩ := first.short cursor missingFirst
      rw [failed]
      exact ⟨fault, behind, rfl⟩
    · rw [first.whole cursor fitsFirst]
      apply (second _).short
      rw [Cursor.remaining_advance]
      omega
  · intro bytes rest fits
    have fitsMore : more ≤ (bytes.drop size).length := by
      rw [List.length_drop]
      omega
    rw [first.value_append _ _ (by omega), List.drop_append_of_le_length (by omega),
      (second _).value_append _ _ fitsMore]

theorem Reads.map {decoder : Decoder α} {size : Nat} {value : List UInt8 → α}
    (reads : Reads decoder size value) (f : α → β) :
    Reads (f <$> decoder) size fun ahead => f (value ahead) := by
  rw [← bind_pure_comp]
  exact reads.bind fun found => .pure (f found)

theorem Reads.value (α : Type) [BigEndian α] :
    Reads (value α) (BigEndian.width α) (fieldAt α 0) :=
  (Reads.bytes _).bind fun _ => .pure _

theorem Reads.values (α : Type) [BigEndian α] (count : Nat) :
    Reads (values α count) (BigEndian.width α * count) fun ahead =>
      Vector.ofFn fun index : Fin count => fieldAt α (BigEndian.width α * index) ahead := by
  apply Reads.congr ((Reads.bytes _).bind fun _ => .pure _) rfl
  intro ahead
  congr 1
  funext index
  have inside : BigEndian.width α ≤ BigEndian.width α * count - BigEndian.width α * index := by
    rw [← Nat.mul_sub]
    exact Nat.le_mul_of_pos_right _ (Nat.sub_pos_of_lt index.isLt)
  rw [List.drop_take, List.take_take, Nat.min_eq_left inside]
  rfl

theorem Reads.skip (count : Nat) : Reads (skip count) count fun _ => () :=
  (Reads.bytes _).bind fun _ => .pure _

end Decoder

end ArmLink.Wire
