import ArmLink.Goal.File
import ArmLink.Proofs.Decimal.Rounding
import Mathlib.Data.List.Forall2

/-!
Goals out of files.

Whether a file is a goal is a matter of its times alone.  A time in seconds is a span if it is a
number, not below zero, and fewer seconds than a span can count; the span is the nearest number of
nanoseconds (`Duration.ofSeconds_cases`).  The points are converted one behind the other, so either
every one of them becomes a point of the goal, in the order of the file, or the first time that is
no span is what the fault tells of (`TrajectoryFile.toGoal_cases`, by induction on the points).
-/

namespace ArmLink

open Decimal (Reading)
open Decimal.Reading (exact magnitude)

namespace Duration

/-- Seconds that are a span of time. -/
structure Convertible (seconds : Float) : Prop where
  finite : seconds.isFinite = true
  nonNegative : 0 ≤ exact seconds
  fits : exact seconds < secondsLimit

/-- Seconds become the nearest span, if they are one. -/
theorem ofSeconds_cases (seconds : Float) :
    (Convertible seconds ∧ ∃ span, ofSeconds seconds = .ok span ∧
        |(span.nanos : ℚ) - exact seconds * nanosPerSecond| ≤ 1 / 2) ∨
      (¬ Convertible seconds ∧ ∃ fault, ofSeconds seconds = .error fault) := by
  cases read : Reading.ofFloat seconds with
  | nan =>
    refine .inr ⟨?_, _, by rw [ofSeconds, read]⟩
    intro convertible
    obtain ⟨_, _, _, finite⟩ := (Reading.isFinite_iff seconds).mp convertible.finite
    simp [read] at finite
  | infinite negative =>
    refine .inr ⟨?_, _, by rw [ofSeconds, read]⟩
    intro convertible
    obtain ⟨_, _, _, finite⟩ := (Reading.isFinite_iff seconds).mp convertible.finite
    simp [read] at finite
  | finite negative mantissa exponent =>
    by_cases below : negative = true ∧ mantissa ≠ 0
    · -- a number below zero
      obtain ⟨rfl, some⟩ := below
      have value : exact seconds = -magnitude mantissa exponent := by
        rw [exact, read, Reading.value]
      have above : 0 < magnitude mantissa exponent :=
        Reading.magnitude_pos (Nat.pos_of_ne_zero some)
      refine .inr ⟨?_, .negative, by simp [ofSeconds, read, some]⟩
      intro convertible
      have := convertible.nonNegative
      linarith
    · have nothing : negative = true → mantissa = 0 := by
        intro isNegative
        by_contra some
        exact below ⟨isNegative, some⟩
      have value : exact seconds = magnitude mantissa exponent := by
        rw [exact, read]
        cases negative with
        | false => rfl
        | true => simp [Reading.value, nothing rfl, magnitude]
      have nonNegative : 0 ≤ magnitude mantissa exponent := by
        unfold magnitude
        positivity
      rw [ofSeconds_of_finite read nothing]
      by_cases fits : magnitude mantissa exponent < secondsLimit
      · refine .inl ⟨⟨?_, value ▸ nonNegative, value ▸ fits⟩, _, if_pos fits, ?_⟩
        · exact (Reading.isFinite_iff seconds).mpr ⟨_, _, _, read⟩
        · rw [value]
          exact Decimal.abs_roundScaled_sub_le .even mantissa exponent nanosPerSecond
      · refine .inr ⟨?_, _, if_neg fits⟩
        intro convertible
        exact fits (value ▸ convertible.fits)

end Duration

/-- A point of a goal as a file gives it.  Velocities that the file leaves out are zero. -/
structure FilePoint.Gives (point : FilePoint) (asked : GoalPoint) : Prop where
  positions : asked.positions = point.positions
  velocities : ∀ velocities, point.velocities = some velocities → asked.velocities = velocities
  still : point.velocities = none → asked.velocities = List.replicate point.positions.length 0.0
  time : |(asked.time.nanos : ℚ) - exact point.time * Duration.nanosPerSecond| ≤ 1 / 2

namespace TrajectoryFile

open Duration (Convertible ofSeconds ofSeconds_cases)

/-- Where the first time that is no span stands among the points of a file, and why it is none. -/
structure FirstFault (points : List FilePoint) (fault : TimeFault) (before : List FilePoint)
    (point : FilePoint) (after : List FilePoint) : Prop where
  split : points = before ++ point :: after
  convertible : ∀ earlier ∈ before, Convertible earlier.time
  refused : ¬ Convertible point.time
  cause : ofSeconds point.time = .error fault.cause

theorem goalPoint_cases (point : FilePoint) (index : Nat) :
    (Convertible point.time ∧ ∃ asked, goalPoint point index = .ok asked ∧ point.Gives asked) ∨
      (¬ Convertible point.time ∧ ∃ cause, ofSeconds point.time = .error cause ∧
        goalPoint point index = .error { point := index, cause }) := by
  obtain ⟨convertible, span, made, near⟩ | ⟨refused, cause, failed⟩ := ofSeconds_cases point.time
  · have given : goalPoint point index = .ok {
        positions := point.positions
        velocities := point.velocities.getD (List.replicate point.positions.length 0.0)
        time := span } := by rw [goalPoint, made]
    refine .inl ⟨convertible, _, given, ?_⟩
    constructor
    · rfl
    · intro velocities isGiven
      simp only [isGiven, Option.getD_some]
    · intro missing
      simp only [missing, Option.getD_none]
    · exact near
  · exact .inr ⟨refused, cause, failed, by rw [goalPoint, failed]⟩

/-- The points of a file, counted from a number: all of them become points of a goal, or the fault
has the number of the first whose time is no span. -/
theorem goalPoints_cases (points : List FilePoint) (start : Nat) :
    ((∀ point ∈ points, Convertible point.time) ∧ ∃ asked,
        (points.zipIdx start).mapM (fun (point, index) => goalPoint point index) = .ok asked ∧
        List.Forall₂ FilePoint.Gives points asked) ∨
      ∃ fault before point after,
        (points.zipIdx start).mapM (fun (point, index) => goalPoint point index) = .error fault ∧
        fault.point = start + before.length ∧ FirstFault points fault before point after := by
  induction points generalizing start with
  | nil => exact .inl ⟨by simp, [], rfl, .nil⟩
  | cons point rest ih =>
    rw [List.zipIdx_cons, List.mapM_cons]
    dsimp only
    obtain ⟨convertible, asked, made, gives⟩ | ⟨refused, cause, why, failed⟩ :=
      goalPoint_cases point start
    · rw [made]
      obtain ⟨others, askedToo, madeToo, givesToo⟩ |
        ⟨fault, before, first, after, failed, number, split, others, refused, why⟩ := ih (start + 1)
      · rw [madeToo]
        exact .inl ⟨List.forall_mem_cons.mpr ⟨convertible, others⟩, asked :: askedToo, rfl,
          .cons gives givesToo⟩
      · rw [failed]
        refine .inr ⟨fault, point :: before, first, after, rfl, ?_, ?_⟩
        · rw [number, List.length_cons]
          omega
        · exact ⟨by rw [split, List.cons_append], List.forall_mem_cons.mpr ⟨convertible, others⟩,
            refused, why⟩
    · rw [failed]
      exact .inr ⟨_, [], point, rest, rfl, rfl, rfl, by simp, refused, why⟩

variable {file : TrajectoryFile} {names : List String}

/-- A file becomes a goal point by point, or the fault tells of the first time that is no span. -/
theorem toGoal_cases (file : TrajectoryFile) (names : List String) :
    ((∀ point ∈ file.points, Convertible point.time) ∧ ∃ goal, file.toGoal names = .ok goal ∧
        goal.jointNames = file.jointNames.getD names ∧
        List.Forall₂ FilePoint.Gives file.points goal.points) ∨
      ∃ fault before point after, file.toGoal names = .error fault ∧
        fault.point = before.length ∧ FirstFault file.points fault before point after := by
  obtain ⟨convertible, asked, made, gives⟩ | ⟨fault, before, point, after, failed, number, first⟩ :=
    goalPoints_cases file.points 0
  · refine .inl ⟨convertible, ⟨file.jointNames.getD names, asked⟩, ?_, rfl, gives⟩
    rw [toGoal, made]
    rfl
  · refine .inr ⟨fault, before, point, after, ?_, by omega, first⟩
    rw [toGoal, failed]
    rfl

theorem exists_toGoal_iff :
    (∃ goal, file.toGoal names = .ok goal) ↔ ∀ point ∈ file.points, Convertible point.time := by
  rcases toGoal_cases file names with
    ⟨convertible, goal, made, -⟩ | ⟨fault, before, point, after, failed, -, first⟩
  · exact iff_of_true ⟨goal, made⟩ convertible
  · refine iff_of_false ?_ ?_
    · rintro ⟨goal, made⟩
      cases made.symm.trans failed
    · intro convertible
      refine first.refused (convertible point ?_)
      rw [first.split]
      exact List.mem_append_right _ List.mem_cons_self

theorem gives_of_toGoal {goal : Goal} (made : file.toGoal names = .ok goal) :
    goal.jointNames = file.jointNames.getD names ∧
      List.Forall₂ FilePoint.Gives file.points goal.points := by
  rcases toGoal_cases file names with ⟨-, other, madeToo, gives⟩ | ⟨_, _, _, _, failed, -⟩
  · cases made.symm.trans madeToo
    exact gives
  · cases made.symm.trans failed

theorem firstFault_of_toGoal {fault : TimeFault} (failed : file.toGoal names = .error fault) :
    ∃ before point after, fault.point = before.length ∧
      FirstFault file.points fault before point after := by
  rcases toGoal_cases file names with
    ⟨-, _, made, -⟩ | ⟨other, before, point, after, failedToo, number, first⟩
  · cases made.symm.trans failed
  · cases failed.symm.trans failedToo
    exact ⟨before, point, after, number, first⟩

end TrajectoryFile

end ArmLink
