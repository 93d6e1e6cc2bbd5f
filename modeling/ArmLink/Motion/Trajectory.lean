import ArmLink.Duration
import ArmLink.Joints

/-!
Trajectories: points to be passed at given times, and how to find the segment that a time falls
into.
-/

namespace ArmLink.Motion

/-- A point of a trajectory. -/
structure Waypoint (α : Type) where
  positions : Joints α
  velocities : Joints α
  time : Duration
deriving DecidableEq

/-- Where the joints are to be at some time, and how fast. -/
structure Sample (α : Type) where
  positions : Joints α
  velocities : Joints α
deriving DecidableEq

/-- A waypoint without its time. -/
def Waypoint.sample {α : Type} (point : Waypoint α) : Sample α :=
  ⟨point.positions, point.velocities⟩

def Waypoint.stopped {α : Type} [Scalar α] (point : Waypoint α) : Sample α :=
  ⟨point.positions, Joints.same Scalar.zero⟩

/-- The time of the last point. -/
def totalDuration {α : Type} (points : List (Waypoint α)) : Duration :=
  (points.getLast?.map (·.time)).getD Duration.zero

/-- The place in `base, …, base + size` that a search by halving ends at: the first place without
the property, if the property holds of a beginning of the places and of nothing behind it. -/
def bisect (holds : Nat → Bool) (base size : Nat) : Nat :=
  if size = 0 then base
  else if size = 1 then (if holds base then base + 1 else base)
  else
    let half := size / 2
    bisect holds (if holds (base + half) then base + half else base) (size - half)
  termination_by size

/-- How many points a search by halving finds at or before a time. -/
def pointsUntil {α : Type} (points : List (Waypoint α)) (time : Duration) : Nat :=
  bisect (fun index => points[index]?.any fun point => point.time.nanos ≤ time.nanos) 0
    points.length

/-- The index of the last point at or before a time; none before the first point. -/
def segmentIndex? {α : Type} (points : List (Waypoint α)) (time : Duration) : Option Nat :=
  match pointsUntil points time with
  | 0 => none
  | count + 1 => some count

/-- Why no profile can be made of a trajectory. -/
inductive PlanFault where
  | emptyTrajectory
  /-- A joint cannot reach the end of a segment in time inside the limits. -/
  | infeasible (segment joint : Nat)
deriving DecidableEq, Repr

def PlanFault.message : PlanFault → String
  | .emptyTrajectory => "Trajectory contains no points"
  | .infeasible segment joint =>
    s!"Segment {segment} is infeasible for joint {joint} under the velocity/acceleration limits"

end ArmLink.Motion
