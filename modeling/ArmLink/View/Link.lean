import ArmLink.Link.Robot
import ArmLink.View.Telemetry

/-!
How links, their context and their counters are laid out.
-/

namespace ArmLink

open Link Telemetry

def Link.Fault.kind : Link.Fault → String
  | .transport _ => "Io"
  | .wire _ => "Protocol"
  | .packet _ => "Parse"
  | .closed => "ConnectionClosed"
  | .timeout => "Timeout"
  | .unsupportedFirmware _ => "UnsupportedVersion"
  | .unexpectedMessage _ => "UnexpectedMessage"
  | .invalidPacketLength _ => "InvalidPacketLength"
  | .worker _ => "IoThread"

instance viewLinkFault : Viewable Link.Fault :=
  ⟨fun fault => (View.fault fault.kind fault.message).extend
    [("timeout", view fault.isTimeout), ("fatal", view fault.isFatal)]⟩

instance : Viewable JointFeedback :=
  ⟨fun feedback => .record [("q", view feedback.positions), ("qd", view feedback.velocities),
    ("time", view feedback.controllerTime)]⟩

instance {ι : Type} : Viewable (Context ι) :=
  ⟨fun context => .record [("alive", view context.isAlive), ("feedback", view context.hasFeedback),
    ("since", view context.sinceFeedback.isSome), ("state", view context.robotState),
    ("joints", view context.joints), ("versions", view context.layouts)]⟩

instance : Viewable Metrics :=
  ⟨fun metrics => .record [("packets_total", view metrics.total),
    ("packets_decoded", view metrics.decoded), ("wrong_kind", view metrics.unexpected),
    ("incomplete", view metrics.incomplete), ("malformed", view metrics.malformed),
    ("read_timeouts", view metrics.timeouts), ("read_errors", view metrics.readErrors),
    ("state_changes", view metrics.stateChanges), ("malformed_rate", view metrics.malformedRate)]⟩

/-- A packet as received: its length, and its bytes or, if there are many, the first of them. -/
def View.reception : Reception → View
  | .error fault => view fault
  | .ok packet => .record [("length", view packet.length),
      if packet.length > 4096 then ("head", .bytes (packet.take 16)) else ("data", .bytes packet)]

/-- Counters of a link at work; how often a read ran out of time means nothing. -/
def View.atWork (metrics : Metrics) : View :=
  match view metrics with
  | .record fields => .record (fields.map fun (name, shown) =>
      (name, if name = "read_timeouts" then .absent else shown))
  | shown => shown

/-- What is seen of a robot once everything has been received: what waiting for feedback brings,
what shutting down leaves behind, and what a listener is told afterwards. -/
def View.robot (robot : Robot Listener) (feedbackTimeout : Duration) : View :=
  let feedback := waitForFeedback feedbackTimeout
    [(.zero, robot.shared), (feedbackTimeout, robot.shared)]
  let down := robot.shutdown
  let listening := down.shared.context.addListener (.recorder "late")
  let late := (listening.updateState .error).2.told.drop listening.told.length
  .record [("versions", view robot.layouts), ("feedback", view (feedback.map fun () => "ok")),
    ("healthy", view robot.isHealthy), ("ctx", view robot.shared.context),
    ("realtime", View.atWork robot.realtime.metrics),
    ("primary", View.atWork ((robot.primary.map (·.metrics)).getD {})),
    ("healthy_after_shutdown", view down.isHealthy),
    ("ctx_after_shutdown", view down.shared.context.robotState),
    ("notified", view (late.map (·.2)))]

end ArmLink
