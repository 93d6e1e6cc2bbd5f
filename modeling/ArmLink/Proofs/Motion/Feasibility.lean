import ArmLink.Proofs.Motion.Ramps

/-!
Which segments timed motion refuses, over the real numbers.

A segment could be made by many trapezoids: with any acceleration up to the limit, and at either root
of its equation.  Planning tries one of them, at the limit and at the slower root.  Nothing is lost by
that.  Where a trapezoid makes the way at some speed, the equation for the largest acceleration has
come down to its slower root by that speed (`cruise_le_of_slack`), and this stays so when there is more
time, more acceleration or less way to make (`slack_of_mem`).  So the planned speed is the smallest of
all, and there is one to plan with whenever any trapezoid will do: `complete_of_plan`.
-/

namespace ArmLink.Motion.Trapezoid

variable {speed way way' time time' acceleration maxVelocity maxVelocity' maxAcceleration
  maxAcceleration' distance : ℝ}

/-- A trapezoid inside limits that makes a way from rest to rest in exactly some time. -/
structure Makes (speed acceleration way time maxVelocity maxAcceleration : ℝ) : Prop where
  speed_pos : 0 < speed
  speed_le : speed ≤ maxVelocity
  acceleration_le : acceleration ≤ maxAcceleration
  ramps_fit : 2 * speed ≤ acceleration * time
  way_eq : speed * (time - speed / acceleration) = way

/-- The speeds at which a way can be made. -/
def speeds (way time maxVelocity maxAcceleration : ℝ) : Set ℝ :=
  {speed | ∃ acceleration, Makes speed acceleration way time maxVelocity maxAcceleration}

/-- A way is made onwards, so the time passes and the speed grows. -/
theorem pos_of_fits (way_pos : 0 < way) (speed_pos : 0 < speed)
    (fits : 2 * speed ≤ acceleration * time)
    (makes : speed * (time - speed / acceleration) = way) : 0 < acceleration ∧ 0 < time := by
  have cruising : 0 < time - speed / acceleration :=
    pos_of_mul_pos_right (makes.symm ▸ way_pos) speed_pos.le
  have product : 0 < acceleration * time := (mul_pos two_pos speed_pos).trans_le fits
  rcases pos_and_pos_or_neg_and_neg_of_mul_pos product with positive | ⟨slowing, backwards⟩
  · exact positive
  · -- Against both signs the ramp would be at most half of a negative time.
    have ramp : time / 2 ≤ speed / acceleration := by
      rw [le_div_iff_of_neg slowing]
      linarith
    linarith

/-- The equation for the cruise speed, where it has come down to zero or below. -/
theorem cruise_le_of_slack (slack : speed ^ 2 ≤ acceleration * (time * speed - way)) :
    0 ≤ discriminant way time acceleration ∧ cruise way time acceleration ≤ speed := by
  have square : (acceleration * time - 2 * speed) ^ 2 ≤ discriminant way time acceleration := by
    rw [discriminant]
    linarith
  have root : acceleration * time - 2 * speed ≤ √(discriminant way time acceleration) :=
    Real.le_sqrt_of_sq_le square
  refine ⟨(sq_nonneg _).trans square, ?_⟩
  rw [cruise]
  linarith

/-- A speed at which a way can be made has slack also where the limits are wider. -/
theorem slack_of_mem (way_pos : 0 < way) (possible : speed ∈ speeds way time maxVelocity maxAcceleration)
    (shorter : way' ≤ way) (longer : time ≤ time') (wider : maxAcceleration ≤ maxAcceleration') :
    speed ^ 2 ≤ maxAcceleration' * (time' * speed - way') := by
  obtain ⟨acceleration, speed_pos, -, inside, fits, makes⟩ := possible
  obtain ⟨acceleration_pos, -⟩ := pos_of_fits way_pos speed_pos fits makes
  have ramps : acceleration * (time * speed - way) = speed ^ 2 := by
    rw [← makes]
    field_simp
    ring
  have left : time * speed - way ≤ time' * speed - way' :=
    sub_le_sub (mul_le_mul_of_nonneg_right longer speed_pos.le) shorter
  have left_nonneg : 0 ≤ time * speed - way :=
    nonneg_of_mul_nonneg_right (ramps ▸ sq_nonneg speed) acceleration_pos
  calc speed ^ 2 = acceleration * (time * speed - way) := ramps.symm
    _ ≤ maxAcceleration' * (time' * speed - way') :=
      mul_le_mul (inside.trans wider) left left_nonneg
        (acceleration_pos.le.trans (inside.trans wider))

theorem cruise_mem (way_pos : 0 < way) (time_pos : 0 < time) (acceleration_pos : 0 < maxAcceleration)
    (feasible : 0 ≤ discriminant way time maxAcceleration)
    (slow : cruise way time maxAcceleration ≤ maxVelocity) :
    cruise way time maxAcceleration ∈ speeds way time maxVelocity maxAcceleration := by
  have fits : 2 * (cruise way time maxAcceleration / maxAcceleration) ≤ time :=
    cruise_fits acceleration_pos
  rw [← mul_div_assoc, div_le_iff₀ acceleration_pos, mul_comm time] at fits
  exact ⟨maxAcceleration, cruise_pos acceleration_pos way_pos time_pos, slow, le_rfl, fits,
    cruise_mul acceleration_pos feasible⟩

theorem isLeast_cruise (way_pos : 0 < way) (time_pos : 0 < time)
    (acceleration_pos : 0 < maxAcceleration)
    (feasible : 0 ≤ discriminant way time maxAcceleration)
    (slow : cruise way time maxAcceleration ≤ maxVelocity) :
    IsLeast (speeds way time maxVelocity maxAcceleration) (cruise way time maxAcceleration) :=
  ⟨cruise_mem way_pos time_pos acceleration_pos feasible slow, fun _ possible =>
    (cruise_le_of_slack (slack_of_mem way_pos possible le_rfl le_rfl le_rfl)).2⟩

/-- Wider limits, more time and a shorter way leave something that is possible possible. -/
theorem speeds_nonempty (way_pos : 0 < way) (way_pos' : 0 < way')
    (possible : (speeds way time maxVelocity maxAcceleration).Nonempty) (shorter : way' ≤ way)
    (longer : time ≤ time') (faster : maxVelocity ≤ maxVelocity')
    (wider : maxAcceleration ≤ maxAcceleration') :
    (speeds way' time' maxVelocity' maxAcceleration').Nonempty := by
  obtain ⟨speed, possible⟩ := possible
  obtain ⟨feasible, slower⟩ :=
    cruise_le_of_slack (slack_of_mem way_pos possible shorter longer wider)
  obtain ⟨acceleration, speed_pos, slow, inside, fits, makes⟩ := possible
  obtain ⟨acceleration_pos, time_pos⟩ := pos_of_fits way_pos speed_pos fits makes
  exact ⟨_, cruise_mem way_pos' (time_pos.trans_le longer)
    (acceleration_pos.trans_le (inside.trans wider)) feasible (slower.trans (slow.trans faster))⟩

/-- A way that counts can be planned if there is a speed for it, and then at the smallest one. -/
theorem plan_cases (counts : Scalar.epsilon ≤ |distance|) (time maxVelocity maxAcceleration : ℝ) :
    (plan distance time maxVelocity maxAcceleration = none ∧
        speeds |distance| time maxVelocity maxAcceleration = ∅) ∨
      ∃ trapezoid, plan distance time maxVelocity maxAcceleration = some trapezoid ∧
        IsLeast (speeds |distance| time maxVelocity maxAcceleration) |trapezoid.velocity| := by
  have way_pos : 0 < |distance| := epsilon_pos.trans_le counts
  rw [plan_eq, if_neg (not_lt.mpr counts)]
  split_ifs with unfit infeasible fast
  · refine .inl ⟨rfl, Set.eq_empty_of_forall_notMem ?_⟩
    rintro speed ⟨acceleration, speed_pos, -, inside, fits, makes⟩
    obtain ⟨acceleration_pos, time_pos⟩ := pos_of_fits way_pos speed_pos fits makes
    rcases unfit with noTime | noAcceleration
    · exact noTime.not_gt time_pos
    · exact noAcceleration.not_gt (acceleration_pos.trans_le inside)
  · refine .inl ⟨rfl, Set.eq_empty_of_forall_notMem fun speed possible => ?_⟩
    exact infeasible.not_ge
      (cruise_le_of_slack (slack_of_mem way_pos possible le_rfl le_rfl le_rfl)).1
  · refine .inl ⟨rfl, Set.eq_empty_of_forall_notMem fun speed possible => ?_⟩
    have slower := (cruise_le_of_slack (slack_of_mem way_pos possible le_rfl le_rfl le_rfl)).2
    obtain ⟨acceleration, makes⟩ := possible
    exact fast.not_ge (slower.trans makes.speed_le)
  · obtain ⟨time_pos, acceleration_pos⟩ : 0 < time ∧ 0 < maxAcceleration := by
      simpa only [not_or, not_le] using unfit
    have speed_pos := cruise_pos acceleration_pos way_pos time_pos
    refine .inr ⟨_, rfl, ?_⟩
    rw [withSign_eq speed_pos.le, abs_mul, abs_direction, one_mul, abs_of_pos speed_pos]
    exact isLeast_cruise way_pos time_pos acceleration_pos (not_lt.mp infeasible) (not_lt.mp fast)

theorem isSome_plan_iff (counts : Scalar.epsilon ≤ |distance|)
    (time maxVelocity maxAcceleration : ℝ) :
    (plan distance time maxVelocity maxAcceleration).isSome = true ↔
      (speeds |distance| time maxVelocity maxAcceleration).Nonempty := by
  obtain ⟨refused, nothing⟩ | ⟨trapezoid, planned, least⟩ :=
    plan_cases counts time maxVelocity maxAcceleration
  · rw [refused, nothing]
    simp
  · rw [planned]
    exact iff_of_true rfl ⟨_, least.1⟩

/-- Planning finds a trapezoid whenever there is one, and the slowest. -/
structure Complete (distance time maxVelocity maxAcceleration : ℝ) : Prop where
  planned_iff : (plan distance time maxVelocity maxAcceleration).isSome = true ↔
    (speeds |distance| time maxVelocity maxAcceleration).Nonempty
  slowest : ∀ trapezoid, plan distance time maxVelocity maxAcceleration = some trapezoid →
    IsLeast (speeds |distance| time maxVelocity maxAcceleration) |trapezoid.velocity|
  /-- What can be planned stays so when it gets easier. -/
  easier : ∀ distance' time' maxVelocity' maxAcceleration', Scalar.epsilon ≤ |distance'| →
    |distance'| ≤ |distance| → time ≤ time' → maxVelocity ≤ maxVelocity' →
    maxAcceleration ≤ maxAcceleration' →
    (plan distance time maxVelocity maxAcceleration).isSome = true →
    (plan distance' time' maxVelocity' maxAcceleration').isSome = true

/-- A segment over a way that counts is refused only if no trapezoid inside the limits makes it; the
one that is planned is the slowest of all, and making a segment easier does not get it refused. -/
theorem complete_of_plan (counts : Scalar.epsilon ≤ |distance|)
    (time maxVelocity maxAcceleration : ℝ) :
    Complete distance time maxVelocity maxAcceleration where
  planned_iff := isSome_plan_iff counts time maxVelocity maxAcceleration
  slowest := by
    intro trapezoid planned
    obtain ⟨refused, -⟩ | ⟨other, found, least⟩ :=
      plan_cases counts time maxVelocity maxAcceleration
    · rw [refused] at planned
      cases planned
    · rw [found] at planned
      cases planned
      exact least
  easier := by
    intro distance' time' maxVelocity' maxAcceleration' counts' shorter longer faster wider planned
    rw [isSome_plan_iff counts] at planned
    rw [isSome_plan_iff counts']
    exact speeds_nonempty (epsilon_pos.trans_le counts) (epsilon_pos.trans_le counts') planned
      shorter longer faster wider

/-- Four units backwards in three units of time: a speed of two makes it, so it can be planned. -/
theorem complete_of_plan_four :
    (Scalar.epsilon : ℝ) ≤ |-4| ∧ Complete (-4) 3 2 2 ∧ (plan (-4 : ℝ) 3 2 2).isSome = true := by
  have counts : (Scalar.epsilon : ℝ) ≤ |-4| := by
    rw [epsilon_eq]
    norm_num
  have complete := complete_of_plan counts 3 2 2
  have possible : (2 : ℝ) ∈ speeds |-4| 3 2 2 :=
    ⟨2, two_pos, le_rfl, le_rfl, by norm_num, by norm_num⟩
  exact ⟨counts, complete, complete.planned_iff.mpr ⟨2, possible⟩⟩

end ArmLink.Motion.Trapezoid
