import ArmLink.Decimal.Reading

/-!
Shortest decimals.  Every finite double other than zero is the nearest double to a whole interval of
numbers.  `shortest` finds the decimal in that interval that has the fewest digits, and of those
the one nearest to the double; exactly between two it takes the one away from zero.

The search goes over decimal grids from coarse to fine.  If any point of a grid lies in the
interval, then so does one of the double's two neighbours on that grid, so only these are tried.
-/

namespace ArmLink.Decimal

/-- The number `digits * 10 ^ exponent`. -/
structure Digits where
  digits : Nat
  exponent : Int
deriving DecidableEq, Repr

/-- The numbers that are nearer to `mantissa * 2 ^ exponent` than to any other double, counted in
quarters of `2 ^ exponent`. -/
structure Neighbourhood where
  low : Nat
  centre : Nat
  high : Nat
  /-- Whether the ends belong to it. -/
  closed : Bool
  /-- The exponent of a quarter. -/
  unit : Int

/-- The neighbourhood of a double.  Below a power of two doubles lie twice as close, unless there
are only subnormal numbers below. -/
def Neighbourhood.of (mantissa : Nat) (exponent : Int) : Neighbourhood where
  low := if mantissa = 1 <<< 52 ∧ Reading.minExponent < exponent then 4 * mantissa - 1
    else 4 * mantissa - 2
  centre := 4 * mantissa
  high := 4 * mantissa + 2
  closed := mantissa % 2 == 0
  unit := exponent - 2

/-- Factors that make grid points and quarters comparable: `d * 10 ^ exponent` is to `q` quarters as
`d * grid` is to `q * quarter`. -/
structure Comparison where
  grid : Nat
  quarter : Nat

/-- The factors for a grid and a size of quarters. -/
def Comparison.of (exponent unit : Int) : Comparison where
  grid := Nat.pow 10 exponent.toNat <<< (-unit).toNat
  quarter := Nat.pow 10 (-exponent).toNat <<< unit.toNat

def Neighbourhood.contains (near : Neighbourhood) (factors : Comparison) (point : Nat) : Bool :=
  let place := point * factors.grid
  if near.closed then
    decide (near.low * factors.quarter ≤ place) && decide (place ≤ near.high * factors.quarter)
  else
    decide (near.low * factors.quarter < place) && decide (place < near.high * factors.quarter)

def Neighbourhood.gridPoint? (near : Neighbourhood) (exponent : Int) : Option Nat :=
  let factors := Comparison.of exponent near.unit
  let centre := near.centre * factors.quarter
  let below := centre / factors.grid
  let above := below + 1
  match near.contains factors below, near.contains factors above with
  | true, true =>
    some (if centre - below * factors.grid < above * factors.grid - centre then below else above)
  | true, false => some below
  | false, true => some above
  | false, false => none

/-- The first of `count` grids, from coarse to fine, with a point in the neighbourhood. -/
def Neighbourhood.coarsest (near : Neighbourhood) (exponent : Int) : Nat → Option Digits
  | 0 => none
  | count + 1 =>
    match near.gridPoint? exponent with
    | some point => some ⟨point, exponent⟩
    | none => near.coarsest (exponent - 1) count

/-- Whether `10 ^ power` is at most `mantissa * 2 ^ exponent`. -/
def reachesPower (power : Int) (mantissa : Nat) (exponent : Int) : Bool :=
  let factors := Comparison.of power exponent
  decide (factors.grid ≤ mantissa * factors.quarter)

/-- The largest power of ten up to `mantissa * 2 ^ exponent`.  The position of the leading bit times
`log 2 / log 10` gives it up to one. -/
def decimalMagnitude (mantissa : Nat) (exponent : Int) : Int :=
  let guess := (mantissa.log2 + exponent) * 30103 / 100000
  if reachesPower (guess + 1) mantissa exponent then guess + 1
  else if reachesPower guess mantissa exponent then guess
  else guess - 1

/-- Divides digits by ten as long as nothing is lost, at most `count` times. -/
def Digits.normalize (decimal : Digits) : Nat → Digits
  | 0 => decimal
  | count + 1 =>
    if decimal.digits % 10 = 0 ∧ decimal.digits ≠ 0 then
      Digits.normalize ⟨decimal.digits / 10, decimal.exponent + 1⟩ count
    else
      decimal

/-- The shortest decimal for the double `mantissa * 2 ^ exponent`, which is not zero.  Seventeen
digits always suffice. -/
def shortest (mantissa : Nat) (exponent : Int) : Digits :=
  let near := Neighbourhood.of mantissa exponent
  let magnitude := decimalMagnitude mantissa exponent
  ((near.coarsest magnitude 18).getD ⟨0, 0⟩).normalize 18

end ArmLink.Decimal
