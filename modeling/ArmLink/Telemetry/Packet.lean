import ArmLink.Telemetry.Realtime
import ArmLink.Telemetry.RobotMessage
import ArmLink.Telemetry.StateSnapshot

/-!
Packets.  Every packet begins with its length, a signed 32-bit number that counts itself.  Packets
of the primary feed have a tag behind the length; packets of the realtime feed have none.

A `Strategy` says which packets are expected.  It reads one packet at a cursor, and what keeps it
from doing so falls into three classes: the tag belongs to another strategy, the packet is not
complete yet (in both cases the cursor stays), or the packet is malformed.  A packet whose frame
is sound is consumed whole, also if its body turns out to be malformed.
-/

namespace ArmLink.Telemetry

open Firmware Wire

/-- The tags of the primary feed. -/
inductive MessageTag where
  | robotState
  | robotMessage
  /-- States of running programs, which are not read. -/
  | programState
deriving DecidableEq, Repr

namespace MessageTag

def code : MessageTag → UInt8
  | .robotState => 16
  | .robotMessage => robotMessageTag
  | .programState => 25

def ofCode? (code : UInt8) : Option MessageTag :=
  if code = 16 then some .robotState
  else if code = robotMessageTag then some .robotMessage
  else if code = 25 then some .programState
  else none

def name : MessageTag → String
  | .robotState => "RobotState"
  | .robotMessage => "RobotMessage"
  | .programState => "ProgramStateMessage"

end MessageTag

/-- What a packet can hold. -/
inductive Payload where
  | state (snapshot : StateSnapshot)
  | realtime (sample : RealtimeSample)
  | message (message : RobotMessage)
deriving DecidableEq

/-- A packet that was read completely. -/
structure Packet where
  /-- The declared length, which is the number of bytes consumed. -/
  length : Nat
  payload : Payload
deriving DecidableEq

namespace Packet

def kindName (packet : Packet) : String :=
  match packet.payload with
  | .state _ => "RobotState"
  | .realtime _ => "RealtimeState"
  | .message _ => "RobotMessage"

def positions (packet : Packet) : Option (Joints Float) :=
  match packet.payload with
  | .state snapshot => snapshot.positions
  | .realtime sample => some sample.common.positions
  | .message _ => none

def velocities (packet : Packet) : Option (Joints Float) :=
  match packet.payload with
  | .state snapshot => snapshot.velocities
  | .realtime sample => some sample.common.velocities
  | .message _ => none

def robotState (packet : Packet) : Option RobotState :=
  match packet.payload with
  | .state snapshot => snapshot.robotState
  | .realtime sample => sample.robotState
  | .message _ => none

/-- The controller's clock, which only realtime packets carry. -/
def controllerTime (packet : Packet) : Option Float :=
  match packet.payload with
  | .realtime sample => some sample.common.time
  | _ => none

def versionReport (packet : Packet) : Option VersionReport :=
  match packet.payload with
  | .message message => message.version
  | _ => none

end Packet

/-- The bodies that can be malformed. -/
inductive BodyKind where
  | robotState
  | realtimeState
  | robotMessage
deriving DecidableEq, Repr

def BodyKind.name : BodyKind → String
  | .robotState => "robot state"
  | .realtimeState => "realtime state"
  | .robotMessage => "robot message"

/-- Why no packet was read. -/
inductive PacketFault where
  /-- The packet has a tag that the strategy does not read; another strategy may. -/
  | unexpectedTag (expected : MessageTag) (found : UInt8)
  /-- The packet goes on behind the end of the run; reading again with more bytes may succeed. -/
  | incomplete (needed available : Nat)
  /-- The frame or the body contradicts the format. -/
  | malformed (body : BodyKind) (fault : Fault)
deriving DecidableEq, Repr

namespace PacketFault

def message : PacketFault → String
  | .unexpectedTag expected found =>
    s!"Unexpected message kind: expected {expected.name}, found tag {found.toNat}"
  | .incomplete needed available =>
    s!"Incomplete packet: need {needed} bytes, {available} available"
  | .malformed body fault => s!"Failed to decode {body.name}: {fault.message}"

/-- Whether the tag belongs to another strategy. -/
def isUnexpectedTag : PacketFault → Bool
  | .unexpectedTag .. => true
  | _ => false

/-- Whether more bytes may help. -/
def isIncomplete : PacketFault → Bool
  | .incomplete .. => true
  | _ => false

/-- Whether the bytes contradict the format. -/
def isMalformed : PacketFault → Bool
  | .malformed .. => true
  | _ => false

/-- Whether the bytes may be fine for someone else or later. -/
def isRecoverable (fault : PacketFault) : Bool := !fault.isMalformed

end PacketFault

/-- Bytes of the length field. -/
def lengthSize : Nat := 4

/-- The tag behind the length field is looked at first, so that a packet for another strategy is
recognised whatever its length field says. -/
def checkTag (expected : Option MessageTag) (cursor : Cursor) : Except PacketFault Nat :=
  match expected with
  | none => .ok lengthSize
  | some tag =>
    match cursor.peekAt UInt8 (UInt64.ofNat lengthSize) with
    | .error _ => .error (.incomplete (lengthSize + 1) cursor.remaining)
    | .ok found =>
      if found = tag.code then .ok (lengthSize + 1) else .error (.unexpectedTag tag found)

/-- Finds the packet at a cursor: its length, the cursor over its body, and the cursor behind it. -/
def frame (expected : Option MessageTag) (body : BodyKind) (cursor : Cursor) :
    Except PacketFault (Nat × Cursor × Cursor) := do
  match cursor.peek Int32 with
  | .error _ => throw (.incomplete lengthSize cursor.remaining)
  | .ok declared =>
    let header ← checkTag expected cursor
    if declared.toInt < header then
      throw (.malformed body (.invalidDeclaredLength declared.toInt))
    else
      let length := declared.toInt.toNat
      match cursor.next length with
      | .error _ => throw (.incomplete length cursor.remaining)
      | .ok (packet, behind) => return (length, Cursor.ofBytes (packet.drop header), behind)

/-- Reads the packet at a cursor, its body with a decoder.  Behind a sound frame the cursor moves on
by the whole packet. -/
def readFramed {α : Type} (expected : Option MessageTag) (body : BodyKind) (decoder : Decoder α)
    (wrap : α → Payload) (cursor : Cursor) : Except PacketFault Packet × Cursor :=
  match frame expected body cursor with
  | .error fault => (.error fault, cursor)
  | .ok (length, content, behind) =>
    match (decoder.run content).1 with
    | .error fault => (.error (.malformed body fault), behind)
    | .ok value => (.ok { length, payload := wrap value }, behind)

/-- Which packets are expected. -/
inductive Strategy where
  | state (layout : StateLayout)
  | realtime (layout : RealtimeLayout)
  | message
  /-- Both kinds of packets that the primary feed carries. -/
  | primary (layout : StateLayout)
deriving DecidableEq, Repr

namespace Strategy

def parseState (layout : StateLayout) : Cursor → Except PacketFault Packet × Cursor :=
  readFramed (some .robotState) .robotState (StateSnapshot.decode layout) .state

def parseRealtime (layout : RealtimeLayout) : Cursor → Except PacketFault Packet × Cursor :=
  readFramed none .realtimeState (RealtimeSample.decode layout) .realtime

def parseMessage : Cursor → Except PacketFault Packet × Cursor :=
  readFramed (some .robotMessage) .robotMessage RobotMessage.decode .message

/-- Reads one packet.  On the primary feed a tag that is not that of a state snapshot is left to
the reader of messages. -/
def parse (strategy : Strategy) (cursor : Cursor) : Except PacketFault Packet × Cursor :=
  match strategy with
  | .state layout => parseState layout cursor
  | .realtime layout => parseRealtime layout cursor
  | .message => parseMessage cursor
  | .primary layout =>
    match parseState layout cursor with
    | (.error (.unexpectedTag _ _), behind) => parseMessage behind
    | outcome => outcome

/-- Reads the packet at the start of a run of bytes. -/
def parseBytes (strategy : Strategy) (bytes : List UInt8) : Except PacketFault Packet :=
  (strategy.parse (Cursor.ofBytes bytes)).1

/-- Reads packets one after the other, no more than `limit` of them, until nothing remains or a
fault leaves the cursor where it was.  Each comes with the cursor behind it. -/
def parseAll (strategy : Strategy) (cursor : Cursor) :
    Nat → List (Except PacketFault Packet × Cursor)
  | 0 => []
  | limit + 1 =>
    let (outcome, behind) := strategy.parse cursor
    (outcome, behind) ::
      if behind.position = cursor.position ∨ behind.atEnd then [] else strategy.parseAll behind limit

end Strategy

end ArmLink.Telemetry
