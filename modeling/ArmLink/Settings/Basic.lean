import ArmLink.Coordinator.Config
import ArmLink.Follower.Config

/-!
The settings of the whole driver.  Every one of them has a default.  Settings that pass `validate`
can be handed on: the parts of the driver take their own settings from them, times being given in
seconds.
-/

namespace ArmLink

/-- The joints of the arm in the order that the control program expects. -/
def defaultJointNames : List String :=
  ["shoulder_pan_joint", "shoulder_lift_joint", "elbow_joint", "wrist_1_joint", "wrist_2_joint",
    "wrist_3_joint"]

/-- The settings of the driver. -/
structure Settings where
  /-- The controller's address. -/
  robotHost : String := "192.168.56.101"
  /-- The port of state snapshots and messages. -/
  primaryPort : UInt16 := 30001
  /-- A second port of the same kind. -/
  secondaryPort : UInt16 := 30002
  realtimePort : UInt16 := 30003
  /-- The address at which the control program is awaited. -/
  reverseAddress : String := "0.0.0.0"
  reversePort : UInt16 := 50001
  /-- Seconds to wait for the control program. -/
  acceptTimeout : Float := 30.0
  /-- The control period in seconds. -/
  servoPeriod : Float := 0.008
  /-- How far the control program looks ahead, in seconds. -/
  servoLookahead : Float := 0.03
  /-- The gain with which the control program follows. -/
  servoGain : Float := 300.0
  /-- Seconds to wait for an acknowledgement; without it none is expected. -/
  acknowledgementTimeout : Option Float := none
  maxVelocity : Float := 10.0
  maxAcceleration : Float := 15.0
  /-- Whether trajectories are followed without stopping at their points. -/
  smooth : Bool := true
  /-- Whether the program ends when the arm hangs. -/
  killOnHang : Bool := true
  /-- Seconds between a hang and the end of the program. -/
  hangExitDelay : Float := 0.25
  /-- Stands in front of every joint name. -/
  jointPrefix : String := ""
  jointNames : List String := defaultJointNames
  goalTolerance : Float := 0.0025
  motionThreshold : Float := 0.01
  timeoutFactor : Float := 1.5
  graceFactor : Float := 0.1
  /-- Seconds between two looks for arrival. -/
  monitorInterval : Float := 0.001
  /-- Seconds between an interrupted goal and the next. -/
  settleDelay : Float := 0.25
  /-- Seconds without telemetry after which the controller counts as lost. -/
  telemetryTimeout : Float := 1.0
deriving BEq

namespace Settings

/-- Why settings are refused. -/
inductive Fault where
  /-- A value must be a number above zero and not infinite. -/
  | notPositive (name : String) (value : Float)
  /-- A value must be a number, not below zero and not infinite. -/
  | negative (name : String) (value : Float)
  /-- The acknowledgement timeout, if there is one, must be positive. -/
  | acknowledgementTimeout (value : Float)
  | jointCount (count : Nat)
  | emptyJointName
  | duplicateJointName (name : String)

def Fault.message : Fault → String
  | .notPositive name value =>
    name ++ " must be positive and finite, got " ++ Decimal.Style.message.render value
  | .negative name value =>
    name ++ " must be non-negative, got " ++ Decimal.Style.message.render value
  | .acknowledgementTimeout value =>
    "ack_timeout must be positive, got " ++ Decimal.Style.message.render value
  | .jointCount count => s!"expected {ArmLink.jointCount} joint names, got {count}"
  | .emptyJointName => "joint names must not be empty"
  | .duplicateJointName name => "duplicate joint name: " ++ name

/-- The values that must be positive, with their names, in the order of checking. -/
def positiveValues (settings : Settings) : List (String × Float) :=
  [("servoj_time", settings.servoPeriod), ("monitor_interval", settings.monitorInterval),
    ("max_velocity", settings.maxVelocity), ("max_acceleration", settings.maxAcceleration),
    ("goal_tolerance", settings.goalTolerance), ("motion_threshold", settings.motionThreshold),
    ("timeout_factor", settings.timeoutFactor), ("accept_timeout", settings.acceptTimeout),
    ("telemetry_timeout", settings.telemetryTimeout)]

/-- The values that must not be negative, with their names, in the order of checking. -/
def nonNegativeValues (settings : Settings) : List (String × Float) :=
  [("grace_factor", settings.graceFactor), ("settle_delay", settings.settleDelay),
    ("hang_exit_delay", settings.hangExitDelay)]

/-- Checks names in order: each must have characters and differ from those before it. -/
def validateNames (seen : List String) : List String → Except Fault Unit
  | [] => .ok ()
  | name :: rest =>
    if name.isEmpty then .error .emptyJointName
    else if name ∈ seen then .error (.duplicateJointName name)
    else validateNames (name :: seen) rest

/-- Checks settings; the first fault counts. -/
def validate (settings : Settings) : Except Fault Unit :=
  match settings.positiveValues.find? (fun entry => !Scalar.isPositive entry.2) with
  | some (name, value) => .error (.notPositive name value)
  | none =>
    match settings.nonNegativeValues.find? (fun entry => !Scalar.isNonNegative entry.2) with
    | some (name, value) => .error (.negative name value)
    | none =>
      match settings.acknowledgementTimeout.filter (!Scalar.isPositive ·) with
      | some value => .error (.acknowledgementTimeout value)
      | none =>
        if settings.jointNames.length ≠ ArmLink.jointCount then
          .error (.jointCount settings.jointNames.length)
        else
          validateNames [] settings.jointNames

def resolvedJointNames (settings : Settings) : List String :=
  settings.jointNames.map fun name => settings.jointPrefix ++ name

/-- The settings of the follower; sending a record may take one control period. -/
def follower (settings : Settings) : Except Duration.Fault (Follower.Config Float) := do
  let period ← Duration.ofSecondsOrZero settings.servoPeriod
  let acceptTimeout ← Duration.ofSecondsOrZero settings.acceptTimeout
  let acknowledgementTimeout ← settings.acknowledgementTimeout.mapM Duration.ofSecondsOrZero
  return {
    address := settings.reverseAddress
    port := settings.reversePort
    acceptTimeout, period
    writeTimeout := period
    acknowledgementTimeout
    maxVelocity := settings.maxVelocity
    maxAcceleration := settings.maxAcceleration }

def coordinator (settings : Settings) : Except Duration.Fault Coordinator.Config := do
  let monitorInterval ← Duration.ofSecondsOrZero settings.monitorInterval
  let settleDelay ← Duration.ofSecondsOrZero settings.settleDelay
  return {
    jointNames := settings.resolvedJointNames
    maxVelocity := settings.maxVelocity
    smooth := settings.smooth
    goalTolerance := settings.goalTolerance
    motionThreshold := settings.motionThreshold
    timeoutFactor := settings.timeoutFactor
    graceFactor := settings.graceFactor
    monitorInterval, settleDelay }

/-- The span without telemetry after which the controller counts as lost. -/
def telemetrySpan (settings : Settings) : Except Duration.Fault Duration :=
  Duration.ofSecondsOrZero settings.telemetryTimeout

/-- The span between a hang and the end of the program. -/
def hangExitSpan (settings : Settings) : Except Duration.Fault Duration :=
  Duration.ofSecondsOrZero settings.hangExitDelay

end Settings

end ArmLink
