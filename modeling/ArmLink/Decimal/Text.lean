import ArmLink.Decimal.Shortest

/-!
Doubles as text.  `Style.render` writes the shortest decimal in positional notation, never with an
exponent; `fixed` writes a given number of decimals.  `toFloat` goes the other way.
-/

namespace ArmLink.Decimal

/-- What a format decides about doubles. -/
structure Style where
  /-- Written behind whole numbers. -/
  wholeMark : String
  nan : String
  infinity : String

/-- How doubles stand in messages: whole numbers without a point. -/
def Style.message : Style := ⟨"", "NaN", "inf"⟩

/-- Positional notation of `digits * 10 ^ exponent`, and whether it is a whole number. -/
def Digits.positional (decimal : Digits) : String × Bool :=
  let digits := Nat.toDigits 10 decimal.digits
  match decimal.exponent with
  | .ofNat zeros => (String.ofList (digits ++ List.replicate zeros '0'), true)
  | .negSucc n =>
    let places := n + 1
    let padded := List.replicate (places + 1 - digits.length) '0' ++ digits
    let whole := padded.length - places
    (String.ofList (padded.take whole ++ '.' :: padded.drop whole), false)

def Style.renderMagnitude (style : Style) (mantissa : Nat) (exponent : Int) : String :=
  if mantissa = 0 then
    "0" ++ style.wholeMark
  else
    match (shortest mantissa exponent).positional with
    | (digits, true) => digits ++ style.wholeMark
    | (digits, false) => digits

def Style.render (style : Style) (x : Float) : String :=
  match Reading.ofFloat x with
  | .nan => style.nan
  | .infinite negative => if negative then "-" ++ style.infinity else style.infinity
  | .finite negative mantissa exponent =>
    (if negative then "-" else "") ++ style.renderMagnitude mantissa exponent

/-- The text of a double rounded to decimals, a tie going to the even neighbour. -/
def fixed (places : Nat) (x : Float) : String :=
  match Reading.ofFloat x with
  | .nan => Style.message.nan
  | .infinite negative =>
    if negative then "-" ++ Style.message.infinity else Style.message.infinity
  | .finite negative mantissa exponent =>
    let scaled := roundScaled .even mantissa exponent (Nat.pow 10 places)
    let digits := Nat.toDigits 10 scaled
    let padded := List.replicate (places + 1 - digits.length) '0' ++ digits
    let whole := padded.length - places
    let fraction := if places = 0 then [] else '.' :: padded.drop whole
    (if negative then "-" else "") ++ String.ofList (padded.take whole ++ fraction)

def ofDigits (digits : List Char) : Nat :=
  digits.foldl (fun value digit => value * 10 + (digit.toNat - '0'.toNat)) 0

/-- The double nearest to `mantissa * 10 ^ exponent`.  Exponents far outside the range are cut off
first, so that no huge power is formed. -/
def toFloat (negative : Bool) (mantissa : Nat) (exponent : Int) : Float :=
  let size : Int := (Nat.toDigits 10 mantissa).length
  let magnitude : Float :=
    if mantissa = 0 ∨ size + exponent < -400 then 0.0
    else if 400 < size + exponent then Float.ofBits 0x7FF0000000000000
    else match exponent with
      | .ofNat power => Float.ofScientific mantissa false power
      | .negSucc power => Float.ofScientific mantissa true (power + 1)
  if negative then -magnitude else magnitude

end ArmLink.Decimal
