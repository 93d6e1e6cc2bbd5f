import ArmLink.Coordinator.Rehearsal
import ArmLink.Goal.File
import ArmLink.View.Motion
import ArmLink.View.Settings

/-!
How goals, what clients are told about them, and what was asked of the executor are laid out.
-/

namespace ArmLink

open Coordinator Goal

def Goal.Outcome.kind : Outcome → String
  | .succeeded => "Succeeded"
  | .aborted _ => "Aborted"
  | .canceled => "Canceled"
  | .rejected _ => "Rejected"

instance viewGoalOutcome : Viewable Goal.Outcome :=
  ⟨fun outcome => .record [("outcome", view outcome.kind), ("code", view outcome.code.number),
    ("result", view outcome.code.name), ("message", view outcome.message),
    ("success", view outcome.isSuccess)]⟩

instance : Viewable Goal.Event :=
  ⟨fun event => match event with
    | .accepted => .text "Accepted"
    | .finished outcome => view outcome⟩

instance : Viewable GoalPoint :=
  ⟨fun point => .record [("p", view point.positions), ("v", view point.velocities),
    ("t", view point.time)]⟩

instance : Viewable Goal :=
  ⟨fun goal => .record [("joint_names", view goal.jointNames), ("points", view goal.points)]⟩

instance viewAnswer : Viewable Coordinator.Answer :=
  ⟨fun answer => match answer with
    | .submitted id => view id
    | .canceled first => view first
    | .updated changed => view changed
    | .nothing => .absent⟩

instance viewConfigFault : Viewable Coordinator.Config.Fault :=
  ⟨fun fault => .fault "InvalidConfig" fault.errorMessage⟩

/-- What was asked of the executor and of the one who handles hangs, apart from interrupts. -/
def View.calls (calls : List Call) : List (String × View) :=
  let count (counts : Call → Bool) : View := view (calls.filter counts).length
  [("starts", count fun call => match call with | .start _ => true | _ => false),
    ("stops", count fun call => match call with | .stop _ => true | _ => false),
    ("streamed", view (calls.filterMap fun call =>
      match call with
      | .stream _ mode points =>
        some (View.record [("mode", view mode.name), ("points", view points)])
      | _ => none)),
    ("hangs", view (calls.filterMap fun call =>
      match call with
      | .hang _ fault => some fault.message
      | _ => none))]

/-- What is left of a coordinator that was given up: the events nobody has taken, its settings, and
what it has asked for. -/
def View.remains (memory : Memory) : List (String × View) :=
  let ids := List.range' 1 (memory.nextId - 1)
  [("rest", .record (ids.map fun id => (toString id, view (memory.progress id).unread))),
    ("config", view memory.config)] ++ View.calls memory.calls

instance : Viewable FilePoint :=
  ⟨fun point => .record [("positions", view point.positions),
    ("velocities", view point.velocities), ("time_from_start", view point.time)]⟩

instance : Viewable TrajectoryFile :=
  ⟨fun file => .record [("joint_names", view file.jointNames), ("points", view file.points)]⟩

instance : Viewable TrajectoryFile.TimeFault := ⟨fun fault => .fault "Goal" fault.message⟩

end ArmLink
