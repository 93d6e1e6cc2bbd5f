import ArmLink.Proofs.Motion.Locating

/-!
The end of a motion.  When the times of the points do not decrease, the time of the last one is a time at
which all points have been passed, so the final sample is the last point: with its own velocities in
smooth motion, at rest in timed motion.
-/

namespace ArmLink.Motion

variable {α : Type} {points : List (Waypoint α)}

theorem totalDuration_eq (nonempty : points ≠ []) :
    totalDuration points = (points.getLast nonempty).time := by
  rw [totalDuration, List.getLast?_eq_some_getLast nonempty]
  rfl

variable [Scalar α]

theorem SmoothProfile.sample_duration (profile : SmoothProfile α) (ordered : InOrder profile.points) :
    profile.sample profile.duration = (profile.points.getLast profile.points_ne_nil).sample :=
  profile.sample_of_after ordered (Nat.le_of_eq (congrArg Duration.nanos (totalDuration_eq _).symm))

theorem TimedProfile.sample_duration (profile : TimedProfile α) (ordered : InOrder profile.points) :
    profile.sample profile.duration = (profile.points.getLast profile.points_ne_nil).stopped :=
  profile.sample_of_after ordered (Nat.le_of_eq (congrArg Duration.nanos (totalDuration_eq _).symm))

/-- A motion ends at the last point. -/
theorem finalSample_of_make {mode : Mode} {maxVelocity maxAcceleration : α} {profile : Profile α}
    (made : Profile.make mode points maxVelocity maxAcceleration = .ok profile)
    (ordered : InOrder points) :
    ∃ nonempty : points ≠ [], profile.finalSample =
      match mode with
      | .smooth => (points.getLast nonempty).sample
      | .timed => (points.getLast nonempty).stopped := by
  cases mode with
  | smooth =>
    rw [Profile.make, SmoothProfile.ofPoints] at made
    split at made
    · cases made
    · cases made
      exact ⟨‹_›, SmoothProfile.sample_duration _ ordered⟩
  | timed =>
    rw [Profile.make, TimedProfile.plan] at made
    split at made
    · cases made
    · cases planned : TimedProfile.planSegments maxVelocity maxAcceleration 0 points with
      | error fault =>
        rw [planned] at made
        cases made
      | ok segments =>
        rw [planned] at made
        cases made
        exact ⟨‹_›, TimedProfile.sample_duration _ ordered⟩

end ArmLink.Motion
