import ArmLink.Telemetry.Packet

/-!
What can go wrong on the way to the controller.  A read that brings nothing in time is not a
failure of the connection; a closed connection, a failing transport and a length that cannot be
true are, and end the link.
-/

namespace ArmLink.Link

open Telemetry

/-- A refusal by the transport below the link. -/
inductive TransportFault where
  /-- A numbered error of the operating system, with the name of its class and its text. -/
  | system (code : Nat) (category text : String)
  /-- An error that is known by its text alone. -/
  | described (text : String)
deriving DecidableEq, Repr

namespace TransportFault

def message : TransportFault → String
  | .system code _ text => s!"{text} (os error {code})"
  | .described text => text

/-- The fields of a refusal, as an aborted program reports them. -/
def details : TransportFault → String
  | .system code category text =>
    s!"Os \x7b code: {code}, kind: {category}, message: \"{text}\" \x7d"
  | .described text => s!"Custom \x7b kind: Other, error: \"{text}\" \x7d"

/-- No route leads to the address. -/
def networkUnreachable : TransportFault :=
  .system 101 "NetworkUnreachable" "Network is unreachable"

/-- A connection waits for something or does not wait at all; it cannot wait for no time. -/
def zeroTimeout : TransportFault := .described "cannot set a 0 duration timeout"

end TransportFault

/-- Why nothing was received, or why the link could not be set up. -/
inductive Fault where
  | transport (fault : TransportFault)
  /-- A record contradicts the format. -/
  | wire (fault : Wire.Fault)
  | packet (fault : PacketFault)
  | closed
  | timeout
  | unsupportedFirmware (firmware : String)
  | unexpectedMessage (text : String)
  | invalidPacketLength (length : Int)
  | worker (text : String)
deriving DecidableEq, Repr

namespace Fault

def message : Fault → String
  | .transport fault => s!"IO error: {fault.message}"
  | .wire fault => s!"Protocol error: {fault.message}"
  | .packet fault => s!"Parse error: {fault.message}"
  | .closed => "Connection closed by peer"
  | .timeout => "Operation timeout"
  | .unsupportedFirmware firmware => s!"Unsupported firmware version: {firmware}"
  | .unexpectedMessage text => s!"Unexpected message: {text}"
  | .invalidPacketLength length => s!"Invalid packet length: {length}"
  | .worker text => s!"IO thread error: {text}"

/-- Whether reading may simply go on. -/
def isTimeout : Fault → Bool
  | .timeout => true
  | _ => false

/-- Whether the connection is of no further use. -/
def isFatal : Fault → Bool
  | .closed | .transport _ | .invalidPacketLength _ => true
  | _ => false

end Fault

/-- What one attempt to receive brings: the bytes of a packet, or a reason why there is none. -/
abbrev Reception := Except Fault (List UInt8)

end ArmLink.Link
