import ArmLink.Duration
import ArmLink.Link.Fault
import ArmLink.Servo.Command

/-!
The other end of the reverse connection.  A follower writes records and, if it waits for them, reads
acknowledgements; a `Peer` says what becomes of each record.  Whatever a control program may do is a
peer: it may refuse a record, acknowledge it rightly, wrongly or not at all, it may take its time,
and somebody may ask the follower to break off while the record is under way.

`ControlProgram` is a family of peers, from one that acknowledges everything to one that hangs up.
-/

namespace ArmLink.Follower

open Link Servo

/-- What reading an acknowledgement brings. -/
inductive Answer where
  | bytes (read : List UInt8)
  | late
  | closed
  | failed (fault : TransportFault)
deriving DecidableEq, Repr

/-- What becomes of a record. -/
inductive Delivery where
  | written (answer : Answer)
  | lost
  | failed (fault : TransportFault)
deriving DecidableEq, Repr

/-- How a peer reacts to a record. -/
structure Reaction (σ : Type) where
  delivery : Delivery
  /-- Whether the follower is asked to break off before it looks again. -/
  interrupts : Bool := false
  /-- How much time has passed, from when the record was due, when the follower looks at its clock. -/
  took : Duration := .zero
  peer : σ

/-- Types whose values are peers of a follower. -/
class Peer (σ : Type) where
  react : σ → List UInt8 → Reaction σ

/-- How a control program behaves. -/
inductive Behavior where
  /-- Reads records and says nothing. -/
  | silent
  /-- Acknowledges every record, from record number `shiftFrom` on with a number off by `shift`, and
  asks the follower to break off before it acknowledges record number `interruptAt`. -/
  | echo (shift : UInt32) (shiftFrom : Nat) (interruptAt : Option Nat)
  /-- Sends half an acknowledgement for the first record and nothing more. -/
  | partly
  /-- Closes the connection after so many records, and acknowledges those before the last if asked
  to. -/
  | hangUp (after : Nat) (acknowledges : Bool)
deriving DecidableEq, Repr

/-- A control program and what it has read so far. -/
structure ControlProgram where
  behavior : Behavior
  /-- The records read, oldest first. -/
  records : List (List UInt8) := []
deriving DecidableEq, Repr

namespace ControlProgram

def sequenceOf (record : List UInt8) : UInt32 := Wire.BigEndian.ofBytes UInt32 (record.take 4)

def react (program : ControlProgram) (record : List UInt8) : Reaction ControlProgram :=
  let number := program.records.length
  let reading := { program with records := program.records ++ [record] }
  match program.behavior with
  | .silent => { delivery := .written .late, peer := reading }
  | .echo shift shiftFrom interruptAt =>
    let sequence := sequenceOf record + if shiftFrom ≤ number then shift else 0
    { delivery := .written (.bytes (encodeAcknowledgement sequence))
      interrupts := interruptAt == some number
      peer := reading }
  | .partly => { delivery := .written .late, peer := reading }
  | .hangUp after acknowledges =>
    if after ≤ number then { delivery := .lost, peer := program }
    else if after = number + 1 then { delivery := .written .closed, peer := reading }
    else if acknowledges then
      { delivery := .written (.bytes (encodeAcknowledgement (sequenceOf record))), peer := reading }
    else { delivery := .written .late, peer := reading }

instance : Peer ControlProgram := ⟨react⟩

end ControlProgram

end ArmLink.Follower
