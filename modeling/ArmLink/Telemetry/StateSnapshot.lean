import ArmLink.Firmware.Layout
import ArmLink.Joints
import ArmLink.Telemetry.RobotState
import ArmLink.Wire.Cursor

/-!
State snapshots of the primary feed.  A snapshot is a run of packages, each with its size and kind
in front: `[size : 4 bytes][kind : 1 byte][body]`, the size counting these five bytes.  Two kinds
are read, the mode report and the joint report; the others are passed over and counted.

A package is read inside its own bounds: a body that is too short is a fault, whatever follows it,
and bytes that a body has too many are ignored.
-/

namespace ArmLink.Telemetry

open Firmware Wire

/-- The kinds of packages in a state snapshot. -/
inductive PackageKind where
  | robotMode | joints | tool | masterboard | cartesian | kinematics | configuration | forceMode
  | additional | calibration
  | other (code : UInt8)
deriving DecidableEq, Repr

namespace PackageKind

def ofCode (code : UInt8) : PackageKind :=
  match code.toNat with
  | 0 => .robotMode
  | 1 => .joints
  | 2 => .tool
  | 3 => .masterboard
  | 4 => .cartesian
  | 5 => .kinematics
  | 6 => .configuration
  | 7 => .forceMode
  | 8 => .additional
  | 9 => .calibration
  | _ => .other code

def code : PackageKind → UInt8
  | .robotMode => 0
  | .joints => 1
  | .tool => 2
  | .masterboard => 3
  | .cartesian => 4
  | .kinematics => 5
  | .configuration => 6
  | .forceMode => 7
  | .additional => 8
  | .calibration => 9
  | .other code => code

end PackageKind

/-! ### Mode reports -/

/-- The flags that every mode report begins with. -/
structure ModeFlags where
  timestamp : UInt64
  robotConnected : Bool
  robotEnabled : Bool
  powerOn : Bool
  emergencyStopped : Bool
  /-- Called "security stopped" by firmware 1.x. -/
  protectiveStopped : Bool
  programRunning : Bool
  programPaused : Bool
deriving DecidableEq, Repr

/-- The mode report of firmware 1.x. -/
structure ModeReportV1 where
  flags : ModeFlags
  mode : LegacyMode
  speedFraction : Float
deriving DecidableEq

/-- The mode report of firmware 3.0 and 3.1. -/
structure ModeReportV3_0 where
  flags : ModeFlags
  mode : RobotMode
  controlMode : UInt8
  targetSpeedFraction : Float
  speedScaling : Float
deriving DecidableEq

/-- The mode report of firmware 3.2 and later, which adds a limit. -/
structure ModeReportV3_2 extends ModeReportV3_0 where
  speedFractionLimit : Float
deriving DecidableEq

/-- A mode report. -/
inductive ModeReport where
  | v1 (report : ModeReportV1)
  | v3_0 (report : ModeReportV3_0)
  | v3_2 (report : ModeReportV3_2)
deriving DecidableEq

def ModeFlags.decode : Decoder ModeFlags := do
  let timestamp ← Decoder.value UInt64
  let robotConnected ← Decoder.value Bool
  let robotEnabled ← Decoder.value Bool
  let powerOn ← Decoder.value Bool
  let emergencyStopped ← Decoder.value Bool
  let protectiveStopped ← Decoder.value Bool
  let programRunning ← Decoder.value Bool
  let programPaused ← Decoder.value Bool
  return {
    timestamp, robotConnected, robotEnabled, powerOn, emergencyStopped, protectiveStopped
    programRunning, programPaused }

/-- Reads the mode report of firmware 1.x. -/
def ModeReportV1.decode : Decoder ModeReportV1 := do
  let flags ← ModeFlags.decode
  let mode ← LegacyMode.ofCode <$> Decoder.value UInt8
  let speedFraction ← Decoder.value Float
  return { flags, mode, speedFraction }

/-- Reads the mode report of firmware 3.0 and 3.1. -/
def ModeReportV3_0.decode : Decoder ModeReportV3_0 := do
  let flags ← ModeFlags.decode
  let mode ← RobotMode.ofCode <$> Decoder.value UInt8
  let controlMode ← Decoder.value UInt8
  let targetSpeedFraction ← Decoder.value Float
  let speedScaling ← Decoder.value Float
  return { flags, mode, controlMode, targetSpeedFraction, speedScaling }

/-- Reads the mode report of firmware 3.2 and later. -/
def ModeReportV3_2.decode : Decoder ModeReportV3_2 := do
  let older ← ModeReportV3_0.decode
  let speedFractionLimit ← Decoder.value Float
  return { toModeReportV3_0 := older, speedFractionLimit }

namespace ModeReport

def decode : StateLayout → Decoder ModeReport
  | .v1 => .v1 <$> ModeReportV1.decode
  | .v3_0 => .v3_0 <$> ModeReportV3_0.decode
  | .v3_2 => .v3_2 <$> ModeReportV3_2.decode

def flags : ModeReport → ModeFlags
  | .v1 report => report.flags
  | .v3_0 report => report.flags
  | .v3_2 report => report.flags

/-- Whether the mode is the one in which programs can move the arm. -/
def inRunningMode : ModeReport → Bool
  | .v1 report => report.mode == .running
  | .v3_0 report => report.mode == .running
  | .v3_2 report => report.mode == .running

def robotState (report : ModeReport) : RobotState :=
  RobotState.derive report.flags.emergencyStopped report.flags.protectiveStopped
    report.inRunningMode

end ModeReport

/-! ### Joint reports -/

/-- The report of one joint. -/
structure JointReport where
  position : Float
  targetPosition : Float
  velocity : Float
  current : Float32
  voltage : Float32
  motorTemperature : Float32
  boardTemperature : Float32
  mode : UInt8
deriving DecidableEq

def JointReport.decode : Decoder JointReport := do
  let position ← Decoder.value Float
  let targetPosition ← Decoder.value Float
  let velocity ← Decoder.value Float
  let current ← Decoder.value Float32
  let voltage ← Decoder.value Float32
  let motorTemperature ← Decoder.value Float32
  let boardTemperature ← Decoder.value Float32
  let mode ← Decoder.value UInt8
  return {
    position, targetPosition, velocity, current, voltage, motorTemperature, boardTemperature
    mode }

/-- The reports of all joints, the same in every layout. -/
abbrev JointReports := Joints JointReport

def JointReports.decode : Decoder JointReports := do
  let first ← JointReport.decode
  let second ← JointReport.decode
  let third ← JointReport.decode
  let fourth ← JointReport.decode
  let fifth ← JointReport.decode
  let sixth ← JointReport.decode
  return #v[first, second, third, fourth, fifth, sixth]

/-! ### Snapshots -/

/-- A state snapshot. -/
structure StateSnapshot where
  layout : StateLayout
  mode : Option ModeReport := none
  joints : Option JointReports := none
  /-- How many packages were passed over. -/
  skipped : Nat := 0
deriving DecidableEq

namespace StateSnapshot

/-- Bytes in front of the body of a package. -/
def packageHeader : Nat := 5

def positions (snapshot : StateSnapshot) : Option (Joints Float) :=
  snapshot.joints.map fun reports => reports.map (·.position)

def velocities (snapshot : StateSnapshot) : Option (Joints Float) :=
  snapshot.joints.map fun reports => reports.map (·.velocity)

/-- The state that a snapshot shows, if the mode was reported. -/
def robotState (snapshot : StateSnapshot) : Option RobotState :=
  snapshot.mode.map (·.robotState)

def addPackage (snapshot : StateSnapshot) (kind : PackageKind) : Decoder StateSnapshot :=
  match kind with
  | .robotMode => do
    let report ← ModeReport.decode snapshot.layout
    return { snapshot with mode := some report }
  | .joints => do
    let reports ← JointReports.decode
    return { snapshot with joints := some reports }
  | _ => return { snapshot with skipped := snapshot.skipped + 1 }

def readPackage (snapshot : StateSnapshot) : Decoder StateSnapshot := do
  Decoder.skip 4
  let kind ← PackageKind.ofCode <$> Decoder.value UInt8
  snapshot.addPackage kind

/-- The size that a package declares, if it covers at least the header. -/
def packageSize (cursor : Cursor) : Except Fault Nat := do
  let declared ← cursor.peek Int32
  if packageHeader ≤ declared.toInt then
    return declared.toInt.toNat
  else
    throw (.invalidDeclaredLength declared.toInt)

theorem packageHeader_le_of_packageSize {cursor : Cursor} {size : Nat}
    (declared : packageSize cursor = .ok size) : packageHeader ≤ size := by
  unfold packageSize at declared
  cases peeked : cursor.peek Int32 with
  | error fault => rw [peeked] at declared; cases declared
  | ok value =>
    rw [peeked] at declared
    simp only [bind, Except.bind] at declared
    split at declared
    · simp only [pure, Except.pure, Except.ok.injEq] at declared
      omega
    · cases declared

/-- Reads packages up to the end of the run and adds them to a snapshot. -/
def addPackages (snapshot : StateSnapshot) (cursor : Cursor) : Except Fault StateSnapshot × Cursor :=
  if cursor.atEnd then
    (.ok snapshot, cursor)
  else
    match declared : packageSize cursor with
    | .error fault => (.error fault, cursor)
    | .ok size =>
      have := packageHeader_le_of_packageSize declared
      if fits : size ≤ cursor.remaining then
        let behind := cursor.advance size fits
        match (snapshot.readPackage.run (Cursor.ofBytes (cursor.ahead.take size))).1 with
        | .error fault => (.error fault, behind)
        | .ok extended => addPackages extended behind
      else
        (.error (.insufficientData size cursor.remaining), cursor)
  termination_by cursor.remaining
  decreasing_by
    unfold packageHeader at this
    rw [Cursor.remaining_advance]
    omega

/-- Reads the body of a snapshot: all bytes behind the tag. -/
def decode (layout : StateLayout) : Decoder StateSnapshot :=
  ExceptT.mk fun cursor => addPackages { layout } cursor

end StateSnapshot

end ArmLink.Telemetry
