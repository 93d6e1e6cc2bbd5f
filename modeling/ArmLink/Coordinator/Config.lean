import ArmLink.Decimal.Text
import ArmLink.Duration
import ArmLink.Joints
import ArmLink.Motion.Profile

/-!
Settings of the coordinator: the joints it knows, what a goal may ask for, and how it tells that the
arm has arrived.
-/

namespace ArmLink.Coordinator

/-- Settings of a coordinator. -/
structure Config where
  jointNames : List String
  /-- The largest velocity that a goal may ask for. -/
  maxVelocity : Float
  /-- Whether goals are followed without stopping at their points. -/
  smooth : Bool
  /-- How near to its target each joint must come. -/
  goalTolerance : Float
  /-- Below which speed a joint counts as standing still. -/
  motionThreshold : Float
  /-- How long a goal may take, as a multiple of its duration. -/
  timeoutFactor : Float
  /-- How long not to look for arrival, as a multiple of the duration. -/
  graceFactor : Float
  /-- The time between two looks at the arm. -/
  monitorInterval : Duration
  /-- The pause between a goal that was interrupted and the next one. -/
  settleDelay : Duration

namespace Config

/-- Why settings are refused. -/
inductive Fault where
  | jointCount (count : Nat)
  | jointNamesNotUnique
  | maxVelocityNotPositive (value : Float)
  | monitorIntervalZero

def Fault.message : Fault → String
  | .jointCount count => s!"expected {ArmLink.jointCount} joint names, got {count}"
  | .jointNamesNotUnique => "joint names must be unique"
  | .maxVelocityNotPositive value =>
    "max_velocity must be positive, got " ++ Decimal.Style.message.render value
  | .monitorIntervalZero => "monitor_interval must be positive"

/-- The text of settings that a coordinator does not start with. -/
def Fault.errorMessage (fault : Fault) : String := "Invalid coordinator config: " ++ fault.message

/-- Checks settings; the first fault counts. -/
def validate (config : Config) : Except Fault Unit :=
  if config.jointNames.length ≠ ArmLink.jointCount then
    .error (.jointCount config.jointNames.length)
  else if ¬ config.jointNames.Nodup then
    .error .jointNamesNotUnique
  else if !Scalar.isPositive config.maxVelocity then
    .error (.maxVelocityNotPositive config.maxVelocity)
  else if config.monitorInterval = Duration.zero then
    .error .monitorIntervalZero
  else
    .ok ()

/-- How the points of goals are followed. -/
def mode (config : Config) : Motion.Mode := if config.smooth then .smooth else .timed

end Config

end ArmLink.Coordinator
