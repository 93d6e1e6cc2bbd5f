import ArmLink.Motion.Profile
import ArmLink.Servo.Command
import ArmLink.View.Telemetry

/-!
How servo records, samples of a motion and planning faults are laid out.
-/

namespace ArmLink

open Motion Servo

instance : Viewable Flag := ⟨fun flag => .text flag.name⟩

instance : Viewable (Command Float) :=
  ⟨fun command => .record [("sequence", view command.sequence), ("positions", view command.positions),
    ("velocities", view command.velocities), ("flag", view command.flag)]⟩

instance : Viewable (Sample Float) :=
  ⟨fun sample => .record [("p", view sample.positions), ("v", view sample.velocities)]⟩

instance : Viewable (Waypoint Float) :=
  ⟨fun point => .record [("p", view point.positions), ("v", view point.velocities),
    ("t", view point.time)]⟩

def Motion.PlanFault.kind : PlanFault → String
  | .emptyTrajectory => "EmptyTrajectory"
  | .infeasible .. => "InfeasibleSegment"

end ArmLink
