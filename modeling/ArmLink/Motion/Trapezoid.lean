import ArmLink.Motion.Trajectory

/-!
Timed motion.  Each segment is planned on its own, each joint speeding up at the largest
acceleration, cruising, and slowing down to rest at the waypoint.  All segments are planned before
anything moves, so a trajectory that cannot be followed is refused as a whole.
-/

namespace ArmLink.Motion

variable {α : Type} [Scalar α]

/-- The motion of one joint from rest to rest; both numbers carry the sign of the direction. -/
structure Trapezoid (α : Type) where
  velocity : α
  acceleration : α
deriving DecidableEq

namespace Trapezoid

def rest : Trapezoid α := ⟨Scalar.zero, Scalar.zero⟩

/-- The motion over `distance` in `time`, or none if the limits do not allow it.  With the largest
acceleration `a` the cruise velocity solves `d = v (t - v / a)`; of its two roots the smaller one
leaves room for both ramps. -/
def plan (distance time maxVelocity maxAcceleration : α) : Option (Trapezoid α) :=
  let way := Scalar.abs distance
  if Scalar.lt way Scalar.epsilon then
    some rest
  else if Scalar.le time Scalar.zero || Scalar.le maxAcceleration Scalar.zero
      || !Scalar.isFinite distance then
    none
  else
    let discriminant := maxAcceleration * maxAcceleration * time * time
      - Scalar.ofNat 4 * maxAcceleration * way
    if Scalar.lt discriminant Scalar.zero then
      none
    else
      let velocity := (maxAcceleration * time - Scalar.sqrt discriminant) / Scalar.ofNat 2
      if Scalar.lt maxVelocity velocity then
        none
      else
        some ⟨Scalar.withSign velocity distance, Scalar.withSign maxAcceleration distance⟩

/-- Position and velocity at `time` in a segment of the given length. -/
def sample (trapezoid : Trapezoid α) (startPosition endPosition time length : α) : α × α :=
  let velocity := trapezoid.velocity
  let acceleration := trapezoid.acceleration
  if Scalar.lt (Scalar.abs velocity) Scalar.epsilon || Scalar.le length time then
    (endPosition, Scalar.zero)
  else if Scalar.le time Scalar.zero then
    (startPosition, Scalar.zero)
  else
    let ramp := velocity / acceleration
    if Scalar.lt time ramp then
      (startPosition + Scalar.half * acceleration * time * time, acceleration * time)
    else if Scalar.lt time (length - ramp) then
      (startPosition + Scalar.half * acceleration * ramp * ramp + velocity * (time - ramp),
        velocity)
    else
      let left := length - time
      (endPosition - Scalar.half * acceleration * left * left, acceleration * left)

end Trapezoid

/-- A trajectory followed with a stop at every waypoint; it has a point. -/
structure TimedProfile (α : Type) where
  points : List (Waypoint α)
  points_ne_nil : points ≠ []
  segments : List (Joints (Trapezoid α))

namespace TimedProfile

/-- The motions of all joints over one segment, or the first joint that cannot make it. -/
def planSegment (maxVelocity maxAcceleration : α) (segment : Nat) (start stop : Waypoint α) :
    Except PlanFault (Joints (Trapezoid α)) :=
  let length : α := (stop.time.monus start.time).toScalar
  Vector.ofFnM fun joint : Fin jointCount =>
    match Trapezoid.plan (stop.positions.get joint - start.positions.get joint) length maxVelocity
        maxAcceleration with
    | some trapezoid => .ok trapezoid
    | none => .error (.infeasible segment joint)

/-- The motions over the segments between points, counted from `segment` on. -/
def planSegments (maxVelocity maxAcceleration : α) :
    Nat → List (Waypoint α) → Except PlanFault (List (Joints (Trapezoid α)))
  | segment, start :: stop :: rest => do
    let first ← planSegment maxVelocity maxAcceleration segment start stop
    let others ← planSegments maxVelocity maxAcceleration (segment + 1) (stop :: rest)
    return first :: others
  | _, _ => return []

/-- The timed profile of a trajectory inside limits. -/
def plan (points : List (Waypoint α)) (maxVelocity maxAcceleration : α) :
    Except PlanFault (TimedProfile α) :=
  if empty : points = [] then
    .error .emptyTrajectory
  else do
    let segments ← planSegments maxVelocity maxAcceleration 0 points
    return ⟨points, empty, segments⟩

/-- The time of the last point. -/
def duration (profile : TimedProfile α) : Duration := totalDuration profile.points

/-- Where the joints are to be at a time. -/
def sample (profile : TimedProfile α) (time : Duration) : Sample α :=
  match segmentIndex? profile.points time with
  | none => (profile.points.head profile.points_ne_nil).stopped
  | some index =>
    match profile.points[index]?, profile.points[index + 1]?, profile.segments[index]? with
    | some start, some stop, some trapezoids =>
      let length : α := (stop.time.monus start.time).toScalar
      let elapsed : α := (time.monus start.time).toScalar
      let joint (j : Fin jointCount) : α × α :=
        (trapezoids.get j).sample (start.positions.get j) (stop.positions.get j) elapsed length
      ⟨Vector.ofFn fun j => (joint j).1, Vector.ofFn fun j => (joint j).2⟩
    | some start, _, _ => start.stopped
    | none, _, _ => (profile.points.getLast profile.points_ne_nil).stopped

end TimedProfile

end ArmLink.Motion
