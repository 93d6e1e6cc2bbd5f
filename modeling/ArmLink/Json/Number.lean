import ArmLink.Decimal.Text

/-!
Numbers in JSON texts.  The digits go into a whole number of 64 bits, the significand, as long as
they fit; the double is the significand times or divided by a power of ten, rounded once for each of
the two and once for the result.  So it is the nearest double as long as the significand and the
power are doubles themselves, and one next to it at times if they are not.
-/

namespace ArmLink.Json

def isNumberChar (c : Char) : Bool :=
  c.isDigit || c == '-' || c == '+' || c == '.' || c == 'e' || c == 'E'

/-- The digits in front and what is behind them; there has to be one. -/
def digits? (text : List Char) : Option (List Char × List Char) :=
  if (text.takeWhile Char.isDigit).isEmpty then none
  else some (text.takeWhile Char.isDigit, text.dropWhile Char.isDigit)

/-- The digits of a whole number, which is not padded with zeros, and what is behind them. -/
def whole? (text : List Char) : Option (List Char × List Char) := do
  match ← digits? text with
  | ('0' :: _ :: _, _) => none
  | split => return split

/-- The digits behind a point, if there is one. -/
def decimals? : List Char → Option (List Char × List Char)
  | '.' :: rest => digits? rest
  | text => some ([], text)

/-- The power of ten that an exponent names, if there is one; nothing may be behind it. -/
def power? : List Char → Option Int
  | [] => some 0
  | mark :: rest => do
    if mark != 'e' && mark != 'E' then none
    else
      let (negative, rest) := match rest with
        | '-' :: rest => (true, rest)
        | '+' :: rest => (false, rest)
        | rest => (false, rest)
      let (digits, rest) ← digits? rest
      if rest.isEmpty then
        let n : Int := Decimal.ofDigits digits
        return if negative then -n else n
      else none

/-- A significand with one digit more, if it still has 64 bits. -/
def addDigit? (significand : Nat) (digit : Char) : Option Nat :=
  let next := significand * 10 + Decimal.ofDigits [digit]
  if next < UInt64.size then some next else none

/-- The significand of the digits before the point, and the number of digits left out of it: the
first that does not fit and all behind it. -/
def addWhole (significand : Nat) : List Char → Nat × Nat
  | [] => (significand, 0)
  | digit :: rest =>
    match addDigit? significand digit with
    | some significand => addWhole significand rest
    | none => (significand, rest.length + 1)

/-- The significand with the digits behind the point, and the number of digits taken into it: those
before the first that does not fit. -/
def addDecimals (significand : Nat) : List Char → Nat × Nat
  | [] => (significand, 0)
  | digit :: rest =>
    match addDigit? significand digit with
    | some significand =>
      let (significand, taken) := addDecimals significand rest
      (significand, taken + 1)
    | none => (significand, 0)

/-- The largest power of ten that is a double is `10 ^ 308`, rounded. -/
def largestPower : Nat := 308

def powerOfTen (power : Nat) : Float := Decimal.toFloat false 1 power

/-- A double divided by a power of ten; by the largest one first, as often as it takes. -/
def divide (x : Float) (power : Nat) : Float :=
  if power ≤ largestPower then x / powerOfTen power
  else if x == 0.0 then x
  else divide (x / powerOfTen largestPower) (power - largestPower)
termination_by power
decreasing_by simp only [largestPower] at *; omega

/-- A significand times a power of ten, infinite if it is too large. -/
def scale (significand : Nat) (power : Int) : Float :=
  let x := Decimal.toFloat false significand 0
  match power with
  | .ofNat power =>
    if power ≤ largestPower then x * powerOfTen power
    else if significand = 0 then x
    else Float.ofBits 0x7FF0000000000000
  | .negSucc power => divide x (power + 1)

/-- The double that a number stands for, infinite if it is too large. -/
def number? (word : List Char) : Option Float := do
  let (negative, rest) := match word with
    | '-' :: rest => (true, rest)
    | rest => (false, rest)
  let (whole, rest) ← whole? rest
  let (decimals, rest) ← decimals? rest
  let power ← power? rest
  let (significand, omitted) := addWhole 0 whole
  let (significand, taken) := addDecimals significand decimals
  let x := scale significand (power + omitted - taken)
  return if negative then -x else x

end ArmLink.Json
