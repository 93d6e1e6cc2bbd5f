import ArmLink.Proofs.Wire.Inside
import ArmLink.Telemetry.Packet

/-!
Bodies of packets are read inside their bounds.

All decoders of the telemetry are put together from reads that stay inside the bytes they are given,
so each of them does too.  A state snapshot cuts its body into packages itself and reads each of them
with a cursor of its own; its loop is followed step by step.
-/

namespace ArmLink.Telemetry

open Firmware Wire
open Wire.Decoder (Inside)

/-! ### The realtime feed -/

namespace Realtime

@[simp] theorem inside_double : Inside double := .value _

@[simp] theorem inside_joints : Inside joints := .values _ _

@[simp] theorem inside_triple : Inside triple := .values _ _

@[simp] theorem inside_sextuple : Inside sextuple := .values _ _

@[simp] theorem inside_reserved (count : Nat) : Inside (reserved count) := .skip _

@[simp] theorem Common.inside : Inside Common.decode := by
  unfold Common.decode
  repeat refine Inside.bind (by simp) fun _ => ?_
  exact .pure _

@[simp] theorem V1_6.inside : Inside V1_6.decode := by
  unfold V1_6.decode
  repeat refine Inside.bind (by simp) fun _ => ?_
  exact .pure _

@[simp] theorem V1_8.inside : Inside V1_8.decode := by
  unfold V1_8.decode
  repeat refine Inside.bind (by simp) fun _ => ?_
  exact .pure _

@[simp] theorem V3_0.inside : Inside V3_0.decode := by
  unfold V3_0.decode
  repeat refine Inside.bind (by simp) fun _ => ?_
  exact .pure _

@[simp] theorem V3_2.inside : Inside V3_2.decode := by
  unfold V3_2.decode
  repeat refine Inside.bind (by simp) fun _ => ?_
  exact .pure _

@[simp] theorem V3_5.inside : Inside V3_5.decode := by
  unfold V3_5.decode
  repeat refine Inside.bind (by simp) fun _ => ?_
  exact .pure _

end Realtime

theorem RealtimeSample.inside (layout : RealtimeLayout) : Inside (RealtimeSample.decode layout) := by
  cases layout <;> exact Inside.map (by simp) _

/-! ### Messages -/

theorem VersionReport.inside : Inside VersionReport.decode := by
  unfold VersionReport.decode
  repeat refine Inside.bind (by simp) fun _ => ?_
  exact .pure _

theorem RobotMessage.inside : Inside RobotMessage.decode := by
  unfold RobotMessage.decode
  repeat refine Inside.bind (by simp) fun _ => ?_
  split
  · exact VersionReport.inside.bind fun _ => .pure _
  · exact .pure _

/-! ### State snapshots -/

@[simp] theorem ModeFlags.inside : Inside ModeFlags.decode := by
  unfold ModeFlags.decode
  repeat refine Inside.bind (by simp) fun _ => ?_
  exact .pure _

@[simp] theorem ModeReportV3_0.inside : Inside ModeReportV3_0.decode := by
  unfold ModeReportV3_0.decode
  repeat refine Inside.bind (by simp) fun _ => ?_
  exact .pure _

theorem ModeReport.inside (layout : StateLayout) : Inside (ModeReport.decode layout) := by
  cases layout with
  | v1 =>
    refine Inside.map ?_ _
    unfold ModeReportV1.decode
    repeat refine Inside.bind (by simp) fun _ => ?_
    exact .pure _
  | v3_0 => exact Inside.map ModeReportV3_0.inside _
  | v3_2 =>
    refine Inside.map ?_ _
    unfold ModeReportV3_2.decode
    repeat refine Inside.bind (by simp) fun _ => ?_
    exact .pure _

@[simp] theorem JointReport.inside : Inside JointReport.decode := by
  unfold JointReport.decode
  repeat refine Inside.bind (by simp) fun _ => ?_
  exact .pure _

theorem JointReports.inside : Inside JointReports.decode := by
  unfold JointReports.decode
  repeat refine Inside.bind (by simp) fun _ => ?_
  exact .pure _

namespace StateSnapshot

theorem inside_readPackage (snapshot : StateSnapshot) : Inside snapshot.readPackage := by
  unfold readPackage
  refine Inside.bind (.skip _) fun _ => Inside.bind (by simp) fun kind => ?_
  unfold addPackage
  split
  · exact (ModeReport.inside _).bind fun _ => .pure _
  · exact JointReports.inside.bind fun _ => .pure _
  · exact .pure _

theorem packageSize_inRange (cursor : Cursor) (start stop : Nat) :
    packageSize cursor ≠ .error (.reversedRange start stop) := by
  unfold packageSize Cursor.peek Cursor.next
  split
  · simp only [Except.map, bind, Except.bind]
    split <;> simp [pure, Except.pure, throw, throwThe, MonadExceptOf.throw]
  · simp [Except.map, bind, Except.bind]

/-- Every step of the loop leaves the cursor in the same run and moves it forward. -/
theorem inside_decode (layout : StateLayout) : Inside (decode layout) := by
  have loop : ∀ (snapshot : StateSnapshot) (cursor : Cursor),
      (addPackages snapshot cursor).2.bytes = cursor.bytes ∧
        cursor.position ≤ (addPackages snapshot cursor).2.position ∧
        ∀ start stop, (addPackages snapshot cursor).1 ≠ .error (.reversedRange start stop) := by
    intro snapshot cursor
    fun_induction addPackages snapshot cursor with
    | case1 => simp
    | case2 snapshot cursor more fault faulty =>
      refine ⟨rfl, Nat.le_refl _, fun start stop equal => ?_⟩
      cases equal
      exact packageSize_inRange cursor start stop faulty
    | case3 snapshot cursor more size declared least fits behind fault faulty =>
      refine ⟨rfl, Nat.le_add_right _ _, fun start stop equal => ?_⟩
      cases equal
      exact (inside_readPackage snapshot).inRange _ start stop faulty
    | case4 snapshot cursor more size declared least fits behind extended read ih =>
      obtain ⟨bytes, forward, inRange⟩ := ih
      exact ⟨bytes, Nat.le_trans (Nat.le_add_right _ _) forward, inRange⟩
    | case5 => simp
  constructor
  · intro cursor
    exact (loop _ cursor).1
  · intro cursor
    exact (loop _ cursor).2.1
  · intro cursor
    exact (loop _ cursor).2.2

end StateSnapshot

end ArmLink.Telemetry
