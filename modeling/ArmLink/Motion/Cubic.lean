import ArmLink.Motion.Trajectory

/-!
Smooth motion.  Between two waypoints each joint follows the cubic polynomial that has the positions
and velocities of both; joined at the waypoints, position and velocity are continuous.

A segment is described in its own time, `0` at its start and `1` at its end, so velocities are
multiplied with its length on the way in and divided by it on the way out.
-/

namespace ArmLink.Motion

variable {α : Type} [Scalar α]

/-- The coefficients of `c0 + c1 s + c2 s² + c3 s³`. -/
structure Cubic (α : Type) where
  c0 : α
  c1 : α
  c2 : α
  c3 : α

namespace Cubic

/-- The cubic through given positions and velocities at both ends of a segment. -/
def between (startPosition startVelocity endPosition endVelocity length : α) : Cubic α :=
  let startSlope := startVelocity * length
  let endSlope := endVelocity * length
  { c0 := startPosition
    c1 := startSlope
    c2 := Scalar.ofNat 3 * (endPosition - startPosition) - Scalar.ofNat 2 * startSlope - endSlope
    c3 := -(Scalar.ofNat 2) * (endPosition - startPosition) + startSlope + endSlope }

/-- The value at a time of the segment. -/
def position (cubic : Cubic α) (s : α) : α :=
  cubic.c0 + cubic.c1 * s + cubic.c2 * s * s + cubic.c3 * s * s * s

/-- The derivative at a time of the segment. -/
def slope (cubic : Cubic α) (s : α) : α :=
  cubic.c1 + Scalar.ofNat 2 * cubic.c2 * s + Scalar.ofNat 3 * cubic.c3 * s * s

end Cubic

/-- Position and velocity of one joint at `time` in a segment of the given length; times outside the
segment count as its ends, and a segment without length is at its end. -/
def interpolate (time length startPosition endPosition startVelocity endVelocity : α) : α × α :=
  if Scalar.le length Scalar.zero then
    (endPosition, endVelocity)
  else
    let s := Scalar.clamp Scalar.zero Scalar.one (time / length)
    let cubic := Cubic.between startPosition startVelocity endPosition endVelocity length
    (cubic.position s, cubic.slope s / length)

/-- A trajectory followed smoothly; it has a point. -/
structure SmoothProfile (α : Type) where
  points : List (Waypoint α)
  points_ne_nil : points ≠ []

namespace SmoothProfile

/-- The smooth profile of a trajectory, which must have a point. -/
def ofPoints (points : List (Waypoint α)) : Except PlanFault (SmoothProfile α) :=
  if empty : points = [] then .error .emptyTrajectory else .ok ⟨points, empty⟩

/-- The time of the last point. -/
def duration (profile : SmoothProfile α) : Duration := totalDuration profile.points

/-- Where the joints are to be at a time. -/
def sample (profile : SmoothProfile α) (time : Duration) : Sample α :=
  match segmentIndex? profile.points time with
  | none => (profile.points.head profile.points_ne_nil).sample
  | some index =>
    match profile.points[index]?, profile.points[index + 1]? with
    | some start, some stop =>
      let length : α := (stop.time.monus start.time).toScalar
      let elapsed : α := (time.monus start.time).toScalar
      let joint (j : Fin jointCount) : α × α :=
        interpolate elapsed length (start.positions.get j) (stop.positions.get j)
          (start.velocities.get j) (stop.velocities.get j)
      ⟨Vector.ofFn fun j => (joint j).1, Vector.ofFn fun j => (joint j).2⟩
    | some start, none => start.sample
    | none, _ => (profile.points.getLast profile.points_ne_nil).sample

end SmoothProfile

end ArmLink.Motion
