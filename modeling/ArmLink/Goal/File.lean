import ArmLink.Goal.Basic
import ArmLink.Json.Document

/-!
Trajectories in files.  A file is a JSON text that gives the points of a goal, times being given in
seconds.  It may leave out the names of the joints, which are those of the arm then, and the
velocities of a point, which are zero then.
-/

namespace ArmLink

open Json (Value)

/-- A point of a trajectory file. -/
structure FilePoint where
  positions : List Float
  velocities : Option (List Float)
  /-- Seconds since the start of the trajectory. -/
  time : Float

def FilePoint.ofValue? (value : Value) : Option FilePoint := do
  match ← value.fields? ["positions", "velocities", "time_from_start"] with
  | [some positions, velocities, some time] =>
    return {
      positions := ← positions.list? Value.float?
      velocities := ← Value.optional? (Value.list? Value.float?) velocities
      time := ← time.float? }
  | _ => none

/-- A trajectory as it stands in a file. -/
structure TrajectoryFile where
  jointNames : Option (List String)
  points : List FilePoint

namespace TrajectoryFile

def ofValue? (value : Value) : Option TrajectoryFile := do
  match ← value.fields? ["joint_names", "points"] with
  | [jointNames, some points] =>
    return {
      jointNames := ← Value.optional? (Value.list? Value.text?) jointNames
      points := ← points.list? FilePoint.ofValue? }
  | _ => none

def parse? (text : String) : Option TrajectoryFile := do
  ofValue? (← Json.parse? text)

/-- The time of a point is no span of time; points are counted from zero. -/
structure TimeFault where
  point : Nat
  cause : Duration.Fault

def TimeFault.summary (fault : TimeFault) : String :=
  s!"第 {fault.point} 个点的 time_from_start 无效"

def TimeFault.message (fault : TimeFault) : String :=
  fault.summary ++ ": " ++ fault.cause.message

def goalPoint (point : FilePoint) (index : Nat) : Except TimeFault GoalPoint :=
  match Duration.ofSeconds point.time with
  | .error cause => .error { point := index, cause }
  | .ok time => .ok {
      positions := point.positions
      velocities := point.velocities.getD (List.replicate point.positions.length 0.0)
      time }

/-- The goal that a file stands for, given the joints to be taken if it names none.  The first time
that is no span counts. -/
def toGoal (file : TrajectoryFile) (jointNames : List String) : Except TimeFault Goal := do
  let points ← file.points.zipIdx.mapM fun (point, index) => goalPoint point index
  return { jointNames := file.jointNames.getD jointNames, points }

end TrajectoryFile

end ArmLink
