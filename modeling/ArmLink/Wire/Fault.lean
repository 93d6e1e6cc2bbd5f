/-!
What can be wrong with bytes on the wire: too few of them, a length that contradicts the format,
a field outside its range, or a controller whose layouts are not known.  Each cause is a
constructor; the wording shown to people is `Fault.message`.
-/

namespace ArmLink.Wire

/-- A reason why bytes could not be read as the value asked for. -/
inductive Fault where
  /-- A read needed `needed` bytes from the cursor on and `remaining` were left. -/
  | insufficientData (needed remaining : Nat)
  /-- A record of fixed size came with another size. -/
  | invalidLength (expected actual : Nat)
  /-- A length written on the wire is negative or smaller than the header it belongs to. -/
  | invalidDeclaredLength (length : Int)
  /-- A field holds a value that the format does not define. -/
  | invalidValue (field : String) (value : Int)
  | unsupportedFirmware (firmware : String)
  /-- The end of a look-ahead lies before its start: the sum of position and offset left the
  range of a machine word. -/
  | reversedRange (start stop : Nat)
deriving DecidableEq, Repr

def Fault.message : Fault → String
  | .insufficientData needed remaining =>
    s!"Insufficient data: need {needed} bytes, {remaining} remaining"
  | .invalidLength expected actual => s!"Invalid packet length: expected {expected}, got {actual}"
  | .invalidDeclaredLength length => s!"Invalid declared packet length: {length}"
  | .invalidValue field value => s!"Invalid value for field {field}: {value}"
  | .unsupportedFirmware firmware => s!"Unsupported firmware version: {firmware}"
  | .reversedRange start stop => s!"slice index starts at {start} but ends at {stop}"

end ArmLink.Wire
