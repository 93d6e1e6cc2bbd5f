import ArmLink.Coordinator.Config
import ArmLink.Goal.Basic
import ArmLink.Motion.Trajectory

/-!
Checking a goal.  The arm must be ready, the joints must be those of the arm in any order, and every
point must be complete, finite, within the velocity limit, and not before the point in front of it.
The checks are made in this order, and the first that fails decides.  A goal that passes is turned
into waypoints with the joints in the order of the arm.
-/

namespace ArmLink.Goal

open Motion Telemetry

/-- Whether the arm is ready for a goal, from whether anything was heard lately and the state. -/
def checkReady (isAlive : Bool) (state : Option RobotState) : Except Unready Unit :=
  if !isAlive then .error .undefined
  else
    match state with
    | some .running => .ok ()
    | some .emergencyStopped => .error .emergencyStopped
    | some .protectiveStopped => .error .protectiveStopped
    | some .error => .error .notRunning
    | none => .error .undefined

/-- Where the joints of the arm stand in the order of a goal: joint `j` of the arm is joint
`order[j]` of the goal.  There is no order unless the goal names every joint once and no other. -/
def jointOrder (canonical names : List String) : Option (Joints (Fin jointCount)) :=
  if names.length ≠ canonical.length ∨ ¬ names.Nodup then none
  else do
    let places ← canonical.mapM fun name => do
      let place ← names.findIdx? (· == name)
      if inside : place < jointCount then some (⟨place, inside⟩ : Fin jointCount) else none
    Joints.ofList? places

def reorder {α : Type} (order : Joints (Fin jointCount)) (values : Joints α) : Joints α :=
  order.map fun place => values.get place

def checkVelocities (limit : Float) : List Float → Except PointsFault Unit
  | [] => .ok ()
  | velocity :: rest =>
    if !velocity.isFinite then .error .velocityNotFinite
    else if limit < velocity.abs then .error (.velocityTooHigh limit)
    else checkVelocities limit rest

/-- Checks one point behind a point at time `previous`. -/
def checkPoint (limit : Float) (order : Joints (Fin jointCount)) (previous : Duration)
    (point : GoalPoint) : Except PointsFault (Waypoint Float) :=
  match Joints.ofList? point.velocities with
  | none => .error .velocityCount
  | some velocities =>
    match Joints.ofList? point.positions with
    | none => .error .positionCount
    | some positions => do
      checkVelocities limit point.velocities
      if point.positions.any (!·.isFinite) then throw .positionNotFinite
      if point.time < previous then throw .timeDecreases
      return {
        positions := reorder order positions
        velocities := reorder order velocities
        time := point.time }

/-- Checks the points behind a point at time `previous`. -/
def checkPoints (limit : Float) (order : Joints (Fin jointCount)) (previous : Duration) :
    List GoalPoint → Except PointsFault (List (Waypoint Float))
  | [] => .ok []
  | point :: rest => do
    let waypoint ← checkPoint limit order previous point
    let waypoints ← checkPoints limit order point.time rest
    return waypoint :: waypoints

/-- Checks a goal for an arm that is ready. -/
def waypoints (config : Coordinator.Config) (goal : Goal) :
    Except Rejection (List (Waypoint Float)) :=
  match jointOrder config.jointNames goal.jointNames with
  | none => .error (.joints config.jointNames goal.jointNames)
  | some order =>
    if goal.points.isEmpty then .error (.points .none)
    else (checkPoints config.maxVelocity order .zero goal.points).mapError .points

/-- Checks a goal. -/
def validate (config : Coordinator.Config) (isAlive : Bool) (state : Option RobotState)
    (goal : Goal) : Except Rejection (List (Waypoint Float)) := do
  (checkReady isAlive state).mapError .unready
  waypoints config goal

/-- The points as they are executed: if the first is not at time zero, the place where the arm
stands comes in front of it.  There are none if that place is needed and not known. -/
def withStartPoint (joints : Option Link.JointFeedback) (points : List (Waypoint Float)) :
    Option (List (Waypoint Float)) :=
  match points with
  | [] => some []
  | first :: _ =>
    if Duration.zero < first.time then
      joints.map fun feedback =>
        { positions := feedback.positions, velocities := feedback.velocities, time := .zero } ::
          points
    else some points

end ArmLink.Goal
