import ArmLink.Duration
import ArmLink.Link.Fault
import ArmLink.Motion.Trajectory

/-!
Where a follower stands, and what keeps it from following a trajectory.  A trajectory that cannot be
planned is the trajectory's fault; everything else means that the robot does not respond, and counts
as a hang.
-/

namespace ArmLink.Follower

open Link Motion

/-- Where a follower stands. -/
inductive Status where
  | idle
  /-- A control program is connected and waits for a trajectory. -/
  | connected
  /-- A trajectory is being sent. -/
  | streaming
  /-- A trajectory was sent to its end. -/
  | completed
  /-- A trajectory was broken off. -/
  | interrupted
  /-- The control program did not respond and was given up. -/
  | hung
deriving DecidableEq, Repr

namespace Status

/-- The number of a status where it is stored as a byte. -/
def code : Status → UInt8
  | .idle => 0
  | .connected => 1
  | .streaming => 2
  | .completed => 3
  | .interrupted => 4
  | .hung => 5

/-- The status with a number; numbers without one mean that there is no control program. -/
def ofCode (code : UInt8) : Status :=
  match code.toNat with
  | 1 => .connected
  | 2 => .streaming
  | 3 => .completed
  | 4 => .interrupted
  | 5 => .hung
  | _ => .idle

def name : Status → String
  | .idle => "Idle"
  | .connected => "Connected"
  | .streaming => "Streaming"
  | .completed => "Completed"
  | .interrupted => "Interrupted"
  | .hung => "Hung"

end Status

/-- Why a call to the follower failed. -/
inductive Fault where
  | notConnected
  /-- No control program connected in time. -/
  | acceptTimeout (timeout : Duration)
  /-- The control program closed the connection. -/
  | connectionLost
  | writeFailed (fault : TransportFault)
  /-- A record was not acknowledged in time. -/
  | acknowledgementTimeout (sequence : UInt32) (timeout : Duration)
  /-- A record was acknowledged with the number of another. -/
  | acknowledgementMismatch (expected actual : UInt32)
  /-- The trajectory cannot be planned. -/
  | plan (fault : PlanFault)
  /-- An acknowledgement contradicts the format. -/
  | wire (fault : Wire.Fault)
  | transport (fault : TransportFault)
deriving DecidableEq, Repr

namespace Fault

def message : Fault → String
  | .notConnected => "Robot control program is not connected"
  | .acceptTimeout timeout => s!"Robot control program did not connect within {timeout.text}"
  | .connectionLost => "Reverse connection lost"
  | .writeFailed fault => s!"Failed to write command record: {fault.message}"
  | .acknowledgementTimeout sequence timeout =>
    s!"No acknowledgement for record {sequence.toNat} within {timeout.text}"
  | .acknowledgementMismatch expected actual =>
    s!"Acknowledgement mismatch: expected {expected.toNat}, got {actual.toNat}"
  | .plan fault => fault.message
  | .wire fault => s!"Protocol error: {fault.message}"
  | .transport fault => s!"IO error: {fault.message}"

/-- Whether a fault means that the robot does not respond. -/
def isHang : Fault → Bool
  | .plan _ => false
  | _ => true

end Fault

end ArmLink.Follower
