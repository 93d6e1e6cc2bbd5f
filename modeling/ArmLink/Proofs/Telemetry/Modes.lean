import ArmLink.Proofs.Decimal.Doubles
import ArmLink.Proofs.Telemetry.Samples

/-!
Which samples permit motion.

The realtime feed sends modes as doubles, and the state is told by the bytes that are left of them.
A byte stands for many doubles, so the doubles that permit motion fill whole ranges, and the lowest
code, zero, also stands for everything below it and for what is no number.  `permission_of_modes`
gives the ranges, and says what is left of them for doubles that are codes.
-/

namespace ArmLink.Telemetry

open Decimal Realtime Wire
open Decimal.Reading (AtLeast IsWhole)

/-- The modes that a sample carries. -/
inductive Modes where
  | legacy (robot : Float)
  | modern (robot safety : Float)

def RealtimeSample.modes? : RealtimeSample → Option Modes
  | .v1_6 _ => none
  | .v1_8 sample => some (.legacy sample.robotMode)
  | .v3_0 sample => some (.modern sample.robotMode sample.safetyMode)
  | .v3_2 sample => some (.modern sample.robotMode sample.safetyMode)
  | .v3_5 sample => some (.modern sample.robotMode sample.safetyMode)

/-- When a sample says that the arm may move. -/
structure Permission (sample : RealtimeSample) : Prop where
  shown : sample.robotState.isSome = sample.modes?.isSome
  legacy : ∀ robot, sample.modes? = some (.legacy robot) →
    (sample.robotState = some .running ↔ robot.isNaN = true ∨ robot < 1)
  modern : ∀ robot safety, sample.modes? = some (.modern robot safety) →
    (sample.robotState = some .running ↔
      (7 ≤ robot ∧ robot < 8) ∧ ((safety.isNaN = true ∨ safety < 3) ∨ 10 ≤ safety))
  /-- A robot mode that is a code must be the running one. -/
  legacyCode : ∀ robot : UInt8, sample.modes? = some (.legacy robot.toFloat) →
    (sample.robotState = some .running ↔ robot = 0)
  /-- A safety mode that is a listed code must be one of the two without restrictions. -/
  modernCode : ∀ robot safety : UInt8,
    sample.modes? = some (.modern robot.toFloat safety.toFloat) → 1 ≤ safety → safety ≤ 9 →
      (sample.robotState = some .running ↔ robot = 7 ∧ (safety = 1 ∨ safety = 2))

/-! ### Codes -/

variable {code mode safety : UInt8} {x : Float}

theorem ofLegacyCode_eq_running : RobotState.ofLegacyCode code = .running ↔ ¬ 1 ≤ code.toNat := by
  have mode : LegacyMode.ofCode code = .running ↔ code.toNat = 0 := by
    unfold LegacyMode.ofCode
    split <;> simp_all
  rw [Nat.not_le, Nat.lt_one_iff, ← mode]
  unfold RobotState.ofLegacyCode
  cases LegacyMode.ofCode code <;> simp

theorem ofCode_eq_running :
    RobotMode.ofCode mode = .running ↔ 7 ≤ mode.toNat ∧ ¬ 8 ≤ mode.toNat := by
  unfold RobotMode.ofCode
  split <;> simp_all
  omega

/-- The safety modes in which the robot mode decides; those without a name are among them. -/
def LeavesOpen : SafetyMode → Prop
  | .normal | .reduced | .other _ => True
  | _ => False

theorem leavesOpen_ofCode :
    LeavesOpen (SafetyMode.ofCode safety) ↔ ¬ 3 ≤ safety.toNat ∨ 10 ≤ safety.toNat := by
  unfold SafetyMode.ofCode
  split <;> simp_all [LeavesOpen]
  omega

theorem ofModes_eq_running {safety : SafetyMode} {mode : RobotMode} :
    RobotState.ofModes safety mode = .running ↔ mode = .running ∧ LeavesOpen safety := by
  cases safety <;> simp [RobotState.ofModes, LeavesOpen]

theorem toUInt8_toFloat (code : UInt8) : code.toFloat.toUInt8 = code := by
  have all : ∀ n : Fin 256, (UInt8.ofFin n).toFloat.toUInt8 = UInt8.ofFin n := by decide +kernel
  exact all code.toFin

theorem isWhole_one : IsWhole 1 1 :=
  ⟨2 ^ 52, -52, by decide, rfl, by norm_num [Reading.magnitude]⟩

theorem isWhole_three : IsWhole 3 3 :=
  ⟨3 * 2 ^ 51, -51, by decide, rfl, by norm_num [Reading.magnitude]⟩

theorem isWhole_seven : IsWhole 7 7 :=
  ⟨7 * 2 ^ 50, -50, by decide, rfl, by norm_num [Reading.magnitude]⟩

theorem isWhole_eight : IsWhole 8 8 :=
  ⟨2 ^ 52, -49, by decide, rfl, by norm_num [Reading.magnitude]⟩

theorem isWhole_ten : IsWhole 10 10 :=
  ⟨5 * 2 ^ 50, -49, by decide, rfl, by norm_num [Reading.magnitude]⟩

theorem legacy_iff :
    RobotState.ofLegacyCode x.toUInt8 = .running ↔ x.isNaN = true ∨ x < 1 := by
  rw [ofLegacyCode_eq_running, isWhole_one.lt_iff, Reading.le_toUInt8_iff (by decide) (by decide)]

theorem modern_iff {robot safety : Float} :
    RobotState.ofModes (SafetyMode.ofCode safety.toUInt8) (RobotMode.ofCode robot.toUInt8) =
        .running ↔
      (7 ≤ robot ∧ robot < 8) ∧ ((safety.isNaN = true ∨ safety < 3) ∨ 10 ≤ safety) := by
  have below : 7 ≤ robot ∧ robot < 8 ↔ 7 ≤ robot ∧ (robot.isNaN = true ∨ robot < 8) := by
    apply and_congr_right
    intro large
    rw [isWhole_seven.isNaN_eq_false large, Bool.false_eq_true, false_or]
  rw [below, ofModes_eq_running, ofCode_eq_running, leavesOpen_ofCode, isWhole_seven.le_iff,
    isWhole_eight.lt_iff, isWhole_three.lt_iff, isWhole_ten.le_iff,
    Reading.le_toUInt8_iff (by decide) (by decide), Reading.le_toUInt8_iff (by decide) (by decide),
    Reading.le_toUInt8_iff (by decide) (by decide), Reading.le_toUInt8_iff (by decide) (by decide)]

/-! ### Samples -/

namespace RealtimeSample

variable {sample : RealtimeSample} {robot safety : Float}

theorem robotState_of_legacy (carried : sample.modes? = some (.legacy robot)) :
    sample.robotState = some (RobotState.ofLegacyCode robot.toUInt8) := by
  cases sample <;> cases carried
  rfl

theorem robotState_of_modern (carried : sample.modes? = some (.modern robot safety)) :
    sample.robotState = some (RobotState.ofModes (SafetyMode.ofCode safety.toUInt8)
      (RobotMode.ofCode robot.toUInt8)) := by
  cases sample <;> cases carried <;> rfl

end RealtimeSample

/-- For every sample the doubles that permit motion are told by their ranges. -/
theorem permission_of_modes (sample : RealtimeSample) : Permission sample := by
  constructor
  · cases sample <;> rfl
  · intro robot carried
    rw [RealtimeSample.robotState_of_legacy carried, Option.some_inj, legacy_iff]
  · intro robot safety carried
    rw [RealtimeSample.robotState_of_modern carried, Option.some_inj, modern_iff]
  · intro robot carried
    rw [RealtimeSample.robotState_of_legacy carried, Option.some_inj, toUInt8_toFloat,
      ofLegacyCode_eq_running, ← UInt8.toNat_inj]
    change _ ↔ _ = 0
    omega
  · intro robot safety carried least most
    rw [RealtimeSample.robotState_of_modern carried, Option.some_inj, toUInt8_toFloat,
      toUInt8_toFloat, ofModes_eq_running, ofCode_eq_running, leavesOpen_ofCode]
    have least : 1 ≤ safety.toNat := UInt8.le_iff_toNat_le.mp least
    have most : safety.toNat ≤ 9 := UInt8.le_iff_toNat_le.mp most
    simp only [← UInt8.toNat_inj]
    change _ ↔ _ = 7 ∧ (_ = 1 ∨ _ = 2)
    omega

/-- The mode that is sent when there is no controller, -1, is left of as the code of the running mode
of firmware 1.8, and a safety mode without a name stops nothing. -/
theorem running_of_no_code :
    (∃ sample robot,
      ((RealtimeSample.decode .v1_8).run (Cursor.ofBytes (List.replicate 752 0 ++
        bytesOfNat 8 0xBFF0000000000000 ++ List.replicate 48 0))).1 = .ok sample ∧
        sample.modes? = some (.legacy robot) ∧ (robot == 0) = false ∧
        sample.robotState = some .running) ∧
      ∃ sample robot safety,
        ((RealtimeSample.decode .v3_0).run (Cursor.ofBytes (List.replicate 752 0 ++
          bytesOfNat 8 0x401C000000000000 ++ List.replicate 280 0))).1 = .ok sample ∧
          sample.modes? = some (.modern robot safety) ∧ (safety == 1) = false ∧
          (safety == 2) = false ∧ sample.robotState = some .running := by
  constructor
  · exact ⟨_, _, RealtimeSample.decode_iff.mpr ⟨by decide +kernel, rfl⟩, rfl, by decide +kernel,
      by decide +kernel⟩
  · exact ⟨_, _, _, RealtimeSample.decode_iff.mpr ⟨by decide +kernel, rfl⟩, rfl, by decide +kernel,
      by decide +kernel, by decide +kernel⟩

end ArmLink.Telemetry
