import ArmLink.Follower.Basic
import ArmLink.View.Motion

/-!
How a follower, its faults and its outcomes are laid out.
-/

namespace ArmLink

open Follower

def Follower.Fault.kind : Follower.Fault → String
  | .notConnected => "NotConnected"
  | .acceptTimeout _ => "AcceptTimeout"
  | .connectionLost => "ConnectionLost"
  | .writeFailed _ => "WriteFailed"
  | .acknowledgementTimeout .. => "AckTimeout"
  | .acknowledgementMismatch .. => "AckMismatch"
  | .plan fault => fault.kind
  | .wire _ => "Protocol"
  | .transport _ => "Io"

instance viewFollowerFault : Viewable Follower.Fault :=
  ⟨fun fault => (View.fault fault.kind fault.message).extend [("hang", view fault.isHang)]⟩

instance : Viewable Status := ⟨fun status => .text status.name⟩

instance : Viewable Outcome := ⟨fun outcome => .text outcome.name⟩

end ArmLink
