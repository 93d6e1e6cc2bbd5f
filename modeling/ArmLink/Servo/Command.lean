import ArmLink.Joints
import ArmLink.Scalar
import ArmLink.Wire.Cursor

/-!
Servo records.  In every control period the control program on the robot gets one record of fixed
size: `[sequence : 4][positions : 6 × 4][velocities : 6 × 4][flag : 4]`, all big-endian.  Positions
and velocities travel as whole millionths; what does not fit into 32 bits goes to the nearer end
of their range.  The control program may acknowledge a record by sending its sequence number back.
-/

namespace ArmLink.Servo

open Wire

/-- Steps of the wire format in one radian, or one radian per second. -/
def resolution : Nat := 1000000

def recordSize : Nat := 56

def acknowledgementSize : Nat := 4

/-- What the control program is to do after reaching a record's target. -/
inductive Flag where
  /-- End servoing and wait for the next trajectory. -/
  | stop
  /-- Wait for the next record. -/
  | keepAlive
deriving DecidableEq, Repr

namespace Flag

def code : Flag → Int32
  | .stop => 0
  | .keepAlive => 1

def ofCode? (code : Int32) : Option Flag :=
  if code = 0 then some .stop else if code = 1 then some .keepAlive else none

def name : Flag → String
  | .stop => "Stop"
  | .keepAlive => "KeepAlive"

end Flag

/-- A value in steps of the wire format: the nearest one in the range of 32 bits. -/
def toFixed {α : Type} [Scalar α] (value : α) : Int32 :=
  Int32.ofInt (Scalar.roundWithin Int32.minValue.toInt Int32.maxValue.toInt
    (value * Scalar.ofNat resolution))

def fromFixed {α : Type} [Scalar α] (steps : Int32) : α :=
  Scalar.ofInt steps.toInt / Scalar.ofNat resolution

/-- One record. -/
structure Command (α : Type) where
  sequence : UInt32
  positions : Joints α
  velocities : Joints α
  flag : Flag
deriving DecidableEq

namespace Command

variable {α : Type} [Scalar α]

def servo (sequence : UInt32) (positions velocities : Joints α) : Command α :=
  { sequence, positions, velocities, flag := .keepAlive }

def hold (sequence : UInt32) (positions : Joints α) : Command α :=
  servo sequence positions (Joints.same Scalar.zero)

def stop (sequence : UInt32) (positions : Joints α) : Command α :=
  { hold sequence positions with flag := .stop }

/-- The bytes of values in steps of the wire format. -/
def encodeSteps (values : Joints α) : List UInt8 :=
  values.toList.flatMap fun value => bytesOfNat 4 (toFixed value).toUInt32.toNat

def encode (command : Command α) : List UInt8 :=
  bytesOfNat 4 command.sequence.toNat ++ encodeSteps command.positions
    ++ encodeSteps command.velocities ++ bytesOfNat 4 command.flag.code.toUInt32.toNat

/-- Reads the fields of a record. -/
def decodeFields : Decoder (Command α) := do
  let sequence ← Decoder.value UInt32
  let positions ← Decoder.values Int32 jointCount
  let velocities ← Decoder.values Int32 jointCount
  let code ← Decoder.value Int32
  match Flag.ofCode? code with
  | some flag =>
    return { sequence, positions := positions.map fromFixed,
             velocities := velocities.map fromFixed, flag }
  | none => throw (.invalidValue "flag" code.toInt)

/-- The record that bytes stand for; they must be as many as a record has. -/
def decode (bytes : List UInt8) : Except Fault (Command α) :=
  if bytes.length = recordSize then
    (decodeFields.run (Cursor.ofBytes bytes)).1
  else
    .error (.invalidLength recordSize bytes.length)

end Command

def decodeAcknowledgement (bytes : List UInt8) : Except Fault UInt32 :=
  (Cursor.ofBytes bytes).peek UInt32

def encodeAcknowledgement (sequence : UInt32) : List UInt8 :=
  bytesOfNat acknowledgementSize sequence.toNat

end ArmLink.Servo
