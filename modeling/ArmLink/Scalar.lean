import ArmLink.Decimal.Reading

/-!
The arithmetic that motion is computed with.  Interpolation, planning and the servo records use the
operations of `Scalar` and nothing else, so the same definitions can be run with doubles and read
over any other numbers, for instance exact ones.
-/

namespace ArmLink

/-- Numbers for positions, speeds and accelerations.  Comparisons are functions to `Bool` because
doubles that are no number compare to nothing. -/
class Scalar (α : Type) extends Add α, Sub α, Mul α, Div α, Neg α where
  /-- The number nearest to a natural number. -/
  ofNat : Nat → α
  /-- Whether the first number is smaller. -/
  lt : α → α → Bool
  /-- Whether the first number is smaller or equal. -/
  le : α → α → Bool
  abs : α → α
  sqrt : α → α
  /-- The magnitude of the first number with the sign of the second. -/
  withSign : α → α → α
  /-- Whether a value is a number and not infinite. -/
  isFinite : α → Bool
  /-- The whole number nearest to a value, a half going away from zero, no smaller than the first
  argument and no larger than the second. -/
  roundWithin : Int → Int → α → Int

namespace Scalar

variable {α : Type} [Scalar α]

/-- The number for a whole number. -/
def ofInt (n : Int) : α :=
  match n with
  | .ofNat n => Scalar.ofNat n
  | .negSucc n => -Scalar.ofNat (n + 1)

def zero : α := Scalar.ofNat 0

def one : α := Scalar.ofNat 1

def half : α := Scalar.ofNat 1 / Scalar.ofNat 2

/-- `2 ^ (-52)`: speeds and distances below it count as none. -/
def epsilon : α := Scalar.ofNat 1 / Scalar.ofNat (1 <<< 52)

/-- Whether a value is a number above zero and not infinite. -/
def isPositive (x : α) : Bool := Scalar.isFinite x && Scalar.lt Scalar.zero x

/-- Whether a value is a number, not below zero and not infinite. -/
def isNonNegative (x : α) : Bool := Scalar.isFinite x && !Scalar.lt x Scalar.zero

/-- A value moved to the nearer end of an interval that it lies outside of. -/
def clamp (low high x : α) : α :=
  let raised := if Scalar.lt x low then low else x
  if Scalar.lt high raised then high else raised

end Scalar

/-- The whole number nearest to a double, a half going away from zero, inside bounds; no number
counts as zero. -/
def roundFloatWithin (low high : Int) (x : Float) : Int :=
  match Decimal.Reading.ofFloat x with
  | .nan => 0
  | .infinite negative => if negative then low else high
  | .finite negative mantissa exponent =>
    let magnitude : Int := Decimal.roundScaled .away mantissa exponent 1
    max low (min high (if negative then -magnitude else magnitude))

def signBit : UInt64 := 0x8000000000000000

/-- Doubles. -/
instance : Scalar Float where
  ofNat := Float.ofNat
  lt x y := decide (x < y)
  le x y := decide (x ≤ y)
  abs := Float.abs
  sqrt := Float.sqrt
  withSign magnitude sign :=
    Float.ofBits ((magnitude.toBits &&& ~~~signBit) ||| (sign.toBits &&& signBit))
  isFinite := Float.isFinite
  roundWithin := roundFloatWithin

end ArmLink
