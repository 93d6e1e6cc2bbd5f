import ArmLink.Proofs.Wire.Fields
import ArmLink.Telemetry.StateSnapshot

/-!
The two reports that are read from a state snapshot, as tables of offsets.

`ModeReport.reads` and `JointReports.reads` say that the decoders follow the tables: a body with
enough bytes is read, whatever stands behind the last field, and a body that is too short is not.
-/

namespace ArmLink.Telemetry

open Firmware Wire
open Wire.Decoder (Reads)

/-! ### Mode reports -/

def ModeFlags.ofBytes (bytes : List UInt8) : ModeFlags where
  timestamp := fieldAt UInt64 0 bytes
  robotConnected := fieldAt Bool 8 bytes
  robotEnabled := fieldAt Bool 9 bytes
  powerOn := fieldAt Bool 10 bytes
  emergencyStopped := fieldAt Bool 11 bytes
  protectiveStopped := fieldAt Bool 12 bytes
  programRunning := fieldAt Bool 13 bytes
  programPaused := fieldAt Bool 14 bytes

def ModeReportV1.ofBytes (bytes : List UInt8) : ModeReportV1 where
  flags := ModeFlags.ofBytes bytes
  mode := LegacyMode.ofCode (fieldAt UInt8 15 bytes)
  speedFraction := fieldAt Float 16 bytes

def ModeReportV3_0.ofBytes (bytes : List UInt8) : ModeReportV3_0 where
  flags := ModeFlags.ofBytes bytes
  mode := RobotMode.ofCode (fieldAt UInt8 15 bytes)
  controlMode := fieldAt UInt8 16 bytes
  targetSpeedFraction := fieldAt Float 17 bytes
  speedScaling := fieldAt Float 25 bytes

def ModeReportV3_2.ofBytes (bytes : List UInt8) : ModeReportV3_2 where
  toModeReportV3_0 := ModeReportV3_0.ofBytes bytes
  speedFractionLimit := fieldAt Float 33 bytes

namespace ModeReport

/-- The fewest bytes that a mode report fills. -/
def size : StateLayout → Nat
  | .v1 => 24
  | .v3_0 => 33
  | .v3_2 => 41

def ofBytes (layout : StateLayout) (bytes : List UInt8) : ModeReport :=
  match layout with
  | .v1 => .v1 (.ofBytes bytes)
  | .v3_0 => .v3_0 (.ofBytes bytes)
  | .v3_2 => .v3_2 (.ofBytes bytes)

end ModeReport

theorem ModeFlags.reads : Reads ModeFlags.decode 15 ModeFlags.ofBytes := by
  apply Reads.congr
  · unfold ModeFlags.decode
    repeat (apply Reads.bind (Reads.value _); intro _)
    apply Reads.pure
  · rfl
  · intro bytes
    simp only [fieldAt_drop]
    rfl

theorem ModeReportV1.reads : Reads ModeReportV1.decode 24 ModeReportV1.ofBytes := by
  apply Reads.congr
  · apply Reads.bind ModeFlags.reads
    intro flags
    apply Reads.bind ((Reads.value _).map _)
    intro mode
    repeat (apply Reads.bind (Reads.value _); intro _)
    apply Reads.pure
  · rfl
  · intro bytes
    simp only [fieldAt_drop]
    rfl

theorem ModeReportV3_0.reads : Reads ModeReportV3_0.decode 33 ModeReportV3_0.ofBytes := by
  apply Reads.congr
  · apply Reads.bind ModeFlags.reads
    intro flags
    apply Reads.bind ((Reads.value _).map _)
    intro mode
    repeat (apply Reads.bind (Reads.value _); intro _)
    apply Reads.pure
  · rfl
  · intro bytes
    simp only [fieldAt_drop]
    rfl

theorem ModeReportV3_2.reads : Reads ModeReportV3_2.decode 41 ModeReportV3_2.ofBytes := by
  apply Reads.congr
  · apply Reads.bind ModeReportV3_0.reads
    intro older
    apply Reads.bind (Reads.value _)
    intro limit
    apply Reads.pure
  · rfl
  · intro bytes
    simp only [fieldAt_drop]
    rfl

theorem ModeReport.reads (layout : StateLayout) :
    Reads (ModeReport.decode layout) (ModeReport.size layout) (ModeReport.ofBytes layout) := by
  cases layout with
  | v1 => exact ModeReportV1.reads.map _
  | v3_0 => exact ModeReportV3_0.reads.map _
  | v3_2 => exact ModeReportV3_2.reads.map _

/-! ### Joint reports -/

/-- The bytes that the report of one joint fills. -/
def JointReport.size : Nat := 41

def JointReport.ofBytes (bytes : List UInt8) : JointReport where
  position := fieldAt Float 0 bytes
  targetPosition := fieldAt Float 8 bytes
  velocity := fieldAt Float 16 bytes
  current := fieldAt Float32 24 bytes
  voltage := fieldAt Float32 28 bytes
  motorTemperature := fieldAt Float32 32 bytes
  boardTemperature := fieldAt Float32 36 bytes
  mode := fieldAt UInt8 40 bytes

/-- The fewest bytes that the reports of all joints fill. -/
def JointReports.size : Nat := 246

def JointReports.ofBytes (bytes : List UInt8) : JointReports :=
  #v[.ofBytes bytes, .ofBytes (bytes.drop 41), .ofBytes (bytes.drop 82),
    .ofBytes (bytes.drop 123), .ofBytes (bytes.drop 164), .ofBytes (bytes.drop 205)]

theorem JointReport.reads : Reads JointReport.decode JointReport.size JointReport.ofBytes := by
  apply Reads.congr
  · unfold JointReport.decode
    repeat (apply Reads.bind (Reads.value _); intro _)
    apply Reads.pure
  · rfl
  · intro bytes
    simp only [fieldAt_drop]
    rfl

theorem JointReports.reads : Reads JointReports.decode JointReports.size JointReports.ofBytes := by
  apply Reads.congr
  · unfold JointReports.decode
    repeat (apply Reads.bind JointReport.reads; intro _)
    apply Reads.pure
  · rfl
  · intro bytes
    rw [List.drop_drop, List.drop_drop, List.drop_drop, List.drop_drop]
    rfl

end ArmLink.Telemetry
