import ArmLink.Scalar

/-!
Spans of time in whole nanoseconds.  A span is made of seconds given as a double by rounding the
exact value to the nearest nanosecond, and it is shown in the largest unit that leaves a whole part.
-/

namespace ArmLink

/-- A span of time. -/
structure Duration where
  nanos : Nat
deriving DecidableEq, Repr

namespace Duration

/-- Nanoseconds in a second. -/
abbrev nanosPerSecond : Nat := 1000000000

/-- Seconds that a span can count: those of a 64-bit word. -/
def secondsLimit : Nat := UInt64.size

def zero : Duration := ⟨0⟩

/-- A span of whole seconds and nanoseconds. -/
def ofParts (seconds nanos : Nat) : Duration := ⟨seconds * nanosPerSecond + nanos⟩

/-- A span of whole milliseconds. -/
def ofMillis (millis : Nat) : Duration := ⟨millis * 1000000⟩

/-- A span of whole microseconds. -/
def ofMicros (micros : Nat) : Duration := ⟨micros * 1000⟩

instance : LT Duration := ⟨fun shorter longer => shorter.nanos < longer.nanos⟩

instance : LE Duration := ⟨fun shorter longer => shorter.nanos ≤ longer.nanos⟩

instance (shorter longer : Duration) : Decidable (shorter < longer) :=
  inferInstanceAs (Decidable (shorter.nanos < longer.nanos))

instance (shorter longer : Duration) : Decidable (shorter ≤ longer) :=
  inferInstanceAs (Decidable (shorter.nanos ≤ longer.nanos))

def seconds (span : Duration) : Nat := span.nanos / nanosPerSecond

/-- The nanoseconds of a span beyond its whole seconds. -/
def subsecond (span : Duration) : Nat := span.nanos % nanosPerSecond

/-- What is left of a span after another; nothing if that is longer. -/
def monus (span other : Duration) : Duration := ⟨span.nanos - other.nanos⟩

def plus (span other : Duration) : Duration := ⟨span.nanos + other.nanos⟩

/-- A span in seconds: its whole seconds plus the fraction. -/
def toScalar {α : Type} [Scalar α] (span : Duration) : α :=
  Scalar.ofNat span.seconds + Scalar.ofNat span.subsecond / Scalar.ofNat nanosPerSecond

/-- Why there is no span, or no moment. -/
inductive Fault where
  | negative
  /-- The value is no number or has more seconds than a span can count. -/
  | unrepresentable
  /-- The sum has more seconds than a span can count. -/
  | tooLong
  /-- The moment is later than a clock can show. -/
  | tooLate
deriving DecidableEq, Repr

def Fault.message : Fault → String
  | .negative => "cannot convert float seconds to Duration: value is negative"
  | .unrepresentable =>
    "cannot convert float seconds to Duration: value is either too big or NaN"
  | .tooLong => "overflow when adding durations"
  | .tooLate => "overflow when adding duration to instant"

/-- The span of a number of seconds, to the nearest nanosecond; a tie goes to the even one. -/
def ofSeconds (seconds : Float) : Except Fault Duration :=
  match Decimal.Reading.ofFloat seconds with
  | .nan => .error .unrepresentable
  | .infinite negative => .error (if negative then .negative else .unrepresentable)
  | .finite negative mantissa exponent =>
    if negative && mantissa != 0 then
      .error .negative
    else
      let nanos := Decimal.roundScaled .even mantissa exponent nanosPerSecond
      if nanos < secondsLimit * nanosPerSecond then .ok ⟨nanos⟩ else .error .unrepresentable

/-- The span of a number of seconds, anything below zero counting as zero. -/
def ofSecondsOrZero (seconds : Float) : Except Fault Duration :=
  if 0.0 < seconds then ofSeconds seconds else .ok zero

def scale (span : Duration) (factor : Float) : Except Fault Duration :=
  ofSeconds (factor * span.toScalar)

/-- Two spans one behind the other. -/
def sum (span other : Duration) : Except Fault Duration :=
  if (span.plus other).seconds < secondsLimit then .ok (span.plus other) else .error .tooLong

/-- Seconds that a clock can show: those of a signed 64-bit word. -/
def clockLimit : Nat := 1 <<< 63

/-- The moment that comes a span after another one.  A moment is the span from the clock's start. -/
def later (moment span : Duration) : Except Fault Duration :=
  if (moment.plus span).seconds < clockLimit then .ok (moment.plus span) else .error .tooLate

/-- The decimal digits of a fraction of `10 ^ places`, without zeros at the end. -/
def fractionText (places fraction : Nat) : String :=
  let digits := (Nat.toDigits 10 (Nat.pow 10 places + fraction)).drop 1
  let trimmed := (digits.reverse.dropWhile (· == '0')).reverse
  if trimmed.isEmpty then "" else "." ++ String.ofList trimmed

/-- A span in the largest unit of which it has at least one, with as many decimals as it takes. -/
def text (span : Duration) : String :=
  if nanosPerSecond ≤ span.nanos then
    s!"{span.seconds}" ++ fractionText 9 span.subsecond ++ "s"
  else if 1000000 ≤ span.nanos then
    s!"{span.nanos / 1000000}" ++ fractionText 6 (span.nanos % 1000000) ++ "ms"
  else if 1000 ≤ span.nanos then
    s!"{span.nanos / 1000}" ++ fractionText 3 (span.nanos % 1000) ++ "µs"
  else
    s!"{span.nanos}ns"

end Duration

end ArmLink
