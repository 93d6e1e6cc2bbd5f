import ArmLink.Firmware.Layout
import ArmLink.Joints
import ArmLink.Telemetry.RobotState
import ArmLink.Wire.Cursor

/-!
The realtime feed.  Behind the length field a packet is nothing but doubles; which quantity stands
where depends on the firmware.  All layouts begin with the same quantities (`Realtime.Common`), and
each layout of a controller generation extends the one before it, so newer samples contain older
ones.

Doubles that no layout names are passed over.
-/

namespace ArmLink.Telemetry.Realtime

open Wire

/-- Three values: a point, a velocity or an acceleration of the tool. -/
abbrev Triple := Vector Float 3

/-- Six values: a pose, a twist or a wrench of the tool. -/
abbrev Sextuple := Vector Float 6

/-- What every layout begins with. -/
structure Common where
  /-- Seconds since the controller was started. -/
  time : Float
  targetPositions : Joints Float
  targetVelocities : Joints Float
  targetAccelerations : Joints Float
  targetCurrents : Joints Float
  targetMoments : Joints Float
  positions : Joints Float
  velocities : Joints Float
  currents : Joints Float
deriving DecidableEq

/-- A sample of firmware 1.6 and 1.7. -/
structure V1_6 extends Common where
  toolAcceleration : Triple
  toolForce : Sextuple
  toolPose : Sextuple
  toolSpeed : Sextuple
  digitalInputs : Float
  motorTemperatures : Joints Float
  controllerTimer : Float
  testValue : Float
deriving DecidableEq

/-- A sample of firmware 1.8, which adds the modes. -/
structure V1_8 extends V1_6 where
  robotMode : Float
  jointModes : Joints Float
deriving DecidableEq

/-- A sample of firmware 3.0 and 3.1. -/
structure V3_0 extends Common where
  controlCurrents : Joints Float
  toolPose : Sextuple
  toolSpeed : Sextuple
  toolForce : Sextuple
  targetToolPose : Sextuple
  targetToolSpeed : Sextuple
  digitalInputs : Float
  motorTemperatures : Joints Float
  controllerTimer : Float
  testValue : Float
  robotMode : Float
  jointModes : Joints Float
  safetyMode : Float
  toolAcceleration : Triple
  speedScaling : Float
  momentum : Float
  mainVoltage : Float
  robotVoltage : Float
  robotCurrent : Float
  jointVoltages : Joints Float
deriving DecidableEq

/-- A sample of firmware 3.2 to 3.4, which adds outputs and the program's state. -/
structure V3_2 extends V3_0 where
  digitalOutputs : Float
  programState : Float
deriving DecidableEq

/-- A sample of firmware 3.5 and later and 5.x, which adds the elbow. -/
structure V3_5 extends V3_2 where
  elbowPosition : Triple
  elbowVelocity : Triple
deriving DecidableEq

def double : Decoder Float := Decoder.value Float

def joints : Decoder (Joints Float) := Decoder.values Float jointCount

def triple : Decoder Triple := Decoder.values Float 3

def sextuple : Decoder Sextuple := Decoder.values Float 6

/-- Passes over doubles that carry nothing. -/
def reserved (count : Nat) : Decoder Unit := Decoder.skip (count * 8)

/-- Reads what every layout begins with. -/
def Common.decode : Decoder Common := do
  let time ← double
  let targetPositions ← joints
  let targetVelocities ← joints
  let targetAccelerations ← joints
  let targetCurrents ← joints
  let targetMoments ← joints
  let positions ← joints
  let velocities ← joints
  let currents ← joints
  return {
    time, targetPositions, targetVelocities, targetAccelerations, targetCurrents, targetMoments
    positions, velocities, currents }

/-- Reads a sample of firmware 1.6 and 1.7. -/
def V1_6.decode : Decoder V1_6 := do
  let common ← Common.decode
  let toolAcceleration ← triple
  reserved 15
  let toolForce ← sextuple
  let toolPose ← sextuple
  let toolSpeed ← sextuple
  let digitalInputs ← double
  let motorTemperatures ← joints
  let controllerTimer ← double
  let testValue ← double
  return {
    toCommon := common
    toolAcceleration, toolForce, toolPose, toolSpeed, digitalInputs, motorTemperatures
    controllerTimer, testValue }

/-- Reads a sample of firmware 1.8. -/
def V1_8.decode : Decoder V1_8 := do
  let older ← V1_6.decode
  let robotMode ← double
  let jointModes ← joints
  return { toV1_6 := older, robotMode, jointModes }

/-- Reads a sample of firmware 3.0 and 3.1. -/
def V3_0.decode : Decoder V3_0 := do
  let common ← Common.decode
  let controlCurrents ← joints
  let toolPose ← sextuple
  let toolSpeed ← sextuple
  let toolForce ← sextuple
  let targetToolPose ← sextuple
  let targetToolSpeed ← sextuple
  let digitalInputs ← double
  let motorTemperatures ← joints
  let controllerTimer ← double
  let testValue ← double
  let robotMode ← double
  let jointModes ← joints
  let safetyMode ← double
  reserved 6
  let toolAcceleration ← triple
  reserved 6
  let speedScaling ← double
  let momentum ← double
  reserved 2
  let mainVoltage ← double
  let robotVoltage ← double
  let robotCurrent ← double
  let jointVoltages ← joints
  return {
    toCommon := common
    controlCurrents, toolPose, toolSpeed, toolForce, targetToolPose, targetToolSpeed
    digitalInputs, motorTemperatures, controllerTimer, testValue, robotMode, jointModes
    safetyMode, toolAcceleration, speedScaling, momentum, mainVoltage, robotVoltage
    robotCurrent, jointVoltages }

/-- Reads a sample of firmware 3.2 to 3.4. -/
def V3_2.decode : Decoder V3_2 := do
  let older ← V3_0.decode
  let digitalOutputs ← double
  let programState ← double
  return { toV3_0 := older, digitalOutputs, programState }

/-- Reads a sample of firmware 3.5 and later. -/
def V3_5.decode : Decoder V3_5 := do
  let older ← V3_2.decode
  let elbowPosition ← triple
  let elbowVelocity ← triple
  return { toV3_2 := older, elbowPosition, elbowVelocity }

/-- The state shown by a sample of firmware 1.8.  Modes come as doubles and are cut down to a byte:
the fraction is dropped, what lies outside the range goes to its nearer end, and what is no number
counts as zero. -/
def V1_8.robotState (sample : V1_8) : RobotState :=
  RobotState.ofLegacyCode sample.robotMode.toUInt8

/-- The state shown by a sample of firmware 3.x and 5.x, its modes cut down to bytes. -/
def V3_0.robotState (sample : V3_0) : RobotState :=
  RobotState.ofModes (SafetyMode.ofCode sample.safetyMode.toUInt8)
    (RobotMode.ofCode sample.robotMode.toUInt8)

end ArmLink.Telemetry.Realtime

namespace ArmLink.Telemetry

open Realtime Firmware Wire

/-- A sample of the realtime feed. -/
inductive RealtimeSample where
  | v1_6 (sample : V1_6)
  | v1_8 (sample : V1_8)
  | v3_0 (sample : V3_0)
  | v3_2 (sample : V3_2)
  | v3_5 (sample : V3_5)
deriving DecidableEq

namespace RealtimeSample

/-- Reads a sample in the given layout; bytes behind it are left alone. -/
def decode : RealtimeLayout → Decoder RealtimeSample
  | .v1_6 => .v1_6 <$> V1_6.decode
  | .v1_8 => .v1_8 <$> V1_8.decode
  | .v3_0 => .v3_0 <$> V3_0.decode
  | .v3_2 => .v3_2 <$> V3_2.decode
  | .v3_5 => .v3_5 <$> V3_5.decode

def layout : RealtimeSample → RealtimeLayout
  | .v1_6 _ => .v1_6
  | .v1_8 _ => .v1_8
  | .v3_0 _ => .v3_0
  | .v3_2 _ => .v3_2
  | .v3_5 _ => .v3_5

def common : RealtimeSample → Common
  | .v1_6 sample => sample.toCommon
  | .v1_8 sample => sample.toCommon
  | .v3_0 sample => sample.toCommon
  | .v3_2 sample => sample.toCommon
  | .v3_5 sample => sample.toCommon

/-- The state a sample shows; firmware 1.6 and 1.7 send no modes. -/
def robotState : RealtimeSample → Option RobotState
  | .v1_6 _ => none
  | .v1_8 sample => some sample.robotState
  | .v3_0 sample => some sample.robotState
  | .v3_2 sample => some sample.robotState
  | .v3_5 sample => some sample.robotState

end RealtimeSample

end ArmLink.Telemetry
