/-!
Fixed-width values in network byte order.  A group of bytes is read as one number, the first byte
being the most significant, and each type says how it is made of that number.

Main statements: `length_bytesOfNat` fixes the size of what is written, and `natOfBytes_bytesOfNat`
says that a number of `8 * width` bits is read back from its bytes.
-/

namespace ArmLink.Wire

/-- The number whose digits to base 256 are the bytes, most significant first. -/
def natOfBytes (bytes : List UInt8) : Nat :=
  bytes.foldl (fun value byte => value * 256 + byte.toNat) 0

/-- The last `width` digits to base 256 of `value`, most significant first. -/
def bytesOfNat : Nat → Nat → List UInt8
  | 0, _ => []
  | width + 1, value => bytesOfNat width (value / 256) ++ [UInt8.ofNat value]

theorem length_bytesOfNat (width value : Nat) : (bytesOfNat width value).length = width := by
  induction width generalizing value with
  | zero => rfl
  | succ width ih => simp [bytesOfNat, ih]

theorem natOfBytes_append_singleton (bytes : List UInt8) (byte : UInt8) :
    natOfBytes (bytes ++ [byte]) = natOfBytes bytes * 256 + byte.toNat := by
  simp [natOfBytes]

theorem natOfBytes_bytesOfNat (width value : Nat) :
    natOfBytes (bytesOfNat width value) = value % 1 <<< (8 * width) := by
  induction width generalizing value with
  | zero => simp [natOfBytes, bytesOfNat, Nat.mod_one]
  | succ width ih =>
    have base : 1 <<< (8 * (width + 1)) = 256 * 1 <<< (8 * width) := by
      rw [Nat.mul_succ, Nat.shiftLeft_add, Nat.shiftLeft_eq, Nat.mul_comm]
    have split := Nat.mod_mul (x := value) (a := 256) (b := 1 <<< (8 * width))
    have byte : (UInt8.ofNat value).toNat = value % 256 := by simp
    rw [bytesOfNat, natOfBytes_append_singleton, ih, byte, base, split]
    omega

/-- A type whose values take `width` bytes on the wire. -/
class BigEndian (α : Type) where
  width : Nat
  /-- The value that a number of `width` bytes stands for. -/
  ofNat : Nat → α

namespace BigEndian

def ofBytes (α : Type) [BigEndian α] (bytes : List UInt8) : α :=
  BigEndian.ofNat (natOfBytes bytes)

instance : BigEndian UInt8 := ⟨1, UInt8.ofNat⟩
instance : BigEndian UInt16 := ⟨2, UInt16.ofNat⟩
instance : BigEndian UInt32 := ⟨4, UInt32.ofNat⟩
instance : BigEndian UInt64 := ⟨8, UInt64.ofNat⟩
instance : BigEndian Int8 := ⟨1, fun n => Int8.ofBitVec (BitVec.ofNat 8 n)⟩
instance : BigEndian Int16 := ⟨2, fun n => Int16.ofBitVec (BitVec.ofNat 16 n)⟩
instance : BigEndian Int32 := ⟨4, fun n => Int32.ofBitVec (BitVec.ofNat 32 n)⟩
instance : BigEndian Int64 := ⟨8, fun n => Int64.ofBitVec (BitVec.ofNat 64 n)⟩
instance : BigEndian Float32 := ⟨4, fun n => Float32.ofBits (UInt32.ofNat n)⟩
instance : BigEndian Float := ⟨8, fun n => Float.ofBits (UInt64.ofNat n)⟩

/-- A flag takes one byte and is set by every value but zero. -/
instance : BigEndian Bool := ⟨1, fun n => n != 0⟩

end BigEndian

end ArmLink.Wire
