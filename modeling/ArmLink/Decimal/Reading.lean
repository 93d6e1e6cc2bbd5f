/-!
The exact value of a double.  A double is no number, an infinity, or a whole number times a power of
two; `Reading.ofFloat` takes it apart, and everything that needs exact values (texts, rounding to
whole numbers, conversion to a span of time) works on the parts in whole-number arithmetic.
-/

namespace ArmLink.Decimal

/-- A double taken apart. -/
inductive Reading where
  | nan
  | infinite (negative : Bool)
  /-- `mantissa * 2 ^ exponent`, negated if `negative`; zero has the mantissa zero. -/
  | finite (negative : Bool) (mantissa : Nat) (exponent : Int)
deriving DecidableEq, Repr

namespace Reading

/-- Smallest exponent of a double, which zero and the subnormal numbers have. -/
def minExponent : Int := -1074

/-- Takes apart the bits of a double: one for the sign, eleven for the exponent, and fifty-two for
the mantissa, whose leading one is not written except in subnormal numbers. -/
def ofBits (bits : Nat) : Reading :=
  let negative := decide (1 <<< 63 ≤ bits)
  let exponent : Nat := bits >>> 52 % 0x800
  let fraction := bits % 1 <<< 52
  if exponent = 0x7FF then
    if fraction = 0 then .infinite negative else .nan
  else if exponent = 0 then
    .finite negative fraction minExponent
  else
    .finite negative (fraction + 1 <<< 52) (minExponent + exponent - 1)

def ofFloat (x : Float) : Reading := ofBits x.toBits.toNat

end Reading

/-- Which way a value exactly between two neighbours goes. -/
inductive Tie where
  | away
  | even
deriving DecidableEq, Repr

/-- The whole number nearest to a quotient. -/
def roundDiv (tie : Tie) (numerator denominator : Nat) : Nat :=
  let quotient := numerator / denominator
  let rest := numerator % denominator
  if 2 * rest < denominator then quotient
  else if denominator < 2 * rest then quotient + 1
  else match tie with
    | .away => quotient + 1
    | .even => quotient + quotient % 2

/-- The whole number nearest to `mantissa * 2 ^ exponent * factor`. -/
def roundScaled (tie : Tie) (mantissa : Nat) (exponent : Int) (factor : Nat) : Nat :=
  match exponent with
  | .ofNat shift => mantissa <<< shift * factor
  | .negSucc shift => roundDiv tie (mantissa * factor) (1 <<< (shift + 1))

end ArmLink.Decimal
