import ArmLink.Proofs.Motion.Exact
import Mathlib.Data.Sign.Basic

/-!
A planned motion of one joint, over the real numbers.

A course is the motion without its direction: from rest up to a speed, on at that speed, and back
down to rest.  Its speed and the way it has made are written with `min` and `max` instead of one
formula for each phase (`speedAt`, `wayAt`), so that monotony, continuity and the bound on the
acceleration need no case analysis across phases.  `Course.sample_eq` says that sampling the trapezoid
in a direction gives these functions, and `exists_course` that every trapezoid planned with a speed
that counts is such a course.  `motion_of_plan` puts the two together.
-/

namespace ArmLink.Motion.Trapezoid

/-- The sign of a distance, that of no distance being positive. -/
noncomputable def direction (distance : ℝ) : ℝ := if distance < 0 then -1 else 1

theorem direction_of_neg {distance : ℝ} (backwards : distance < 0) : direction distance = -1 :=
  if_pos backwards

theorem direction_of_nonneg {distance : ℝ} (onwards : 0 ≤ distance) : direction distance = 1 :=
  if_neg (not_lt.mpr onwards)

theorem abs_direction (distance : ℝ) : |direction distance| = 1 := by
  unfold direction
  split_ifs <;> simp

theorem direction_mul_abs (distance : ℝ) : direction distance * |distance| = distance := by
  rcases lt_or_ge distance 0 with backwards | onwards
  · rw [direction_of_neg backwards, abs_of_neg backwards, neg_one_mul, neg_neg]
  · rw [direction_of_nonneg onwards, abs_of_nonneg onwards, one_mul]

theorem sign_direction_mul {distance magnitude : ℝ} (nonzero : distance ≠ 0)
    (positive : 0 < magnitude) :
    SignType.sign (direction distance * magnitude) = SignType.sign distance := by
  rw [sign_mul, sign_pos positive, mul_one]
  rcases nonzero.lt_or_gt with backwards | onwards
  · rw [direction_of_neg backwards, sign_neg backwards, sign_neg neg_one_lt_zero]
  · rw [direction_of_nonneg onwards.le, sign_pos onwards, sign_one]

theorem withSign_eq {magnitude : ℝ} (nonneg : 0 ≤ magnitude) (distance : ℝ) :
    Scalar.withSign magnitude distance = direction distance * magnitude := by
  rw [real_withSign, abs_of_nonneg nonneg, direction]
  split_ifs
  · rw [neg_one_mul]
  · rw [one_mul]

/-- A motion from rest to rest in some time, both ramps inside that time. -/
structure Course where
  speed : ℝ
  acceleration : ℝ
  time : ℝ
  speed_pos : 0 < speed
  acceleration_pos : 0 < acceleration
  fits : 2 * (speed / acceleration) ≤ time

namespace Course

variable (course : Course) {τ : ℝ}

/-- How long it takes to reach the speed, and to lose it again. -/
noncomputable def ramp : ℝ := course.speed / course.acceleration

/-- The way made in the whole time. -/
noncomputable def length : ℝ := course.speed * (course.time - course.ramp)

/-- The speed after some time. -/
noncomputable def speedAt (τ : ℝ) : ℝ :=
  max 0 (min course.speed (min (course.acceleration * τ) (course.acceleration * (course.time - τ))))

noncomputable def rising (τ : ℝ) : ℝ := max 0 (min course.ramp τ)

noncomputable def cruising (τ : ℝ) : ℝ :=
  max 0 (min (course.time - course.ramp - course.ramp) (τ - course.ramp))

noncomputable def falling (τ : ℝ) : ℝ :=
  max 0 (min course.ramp (τ - (course.time - course.ramp)))

/-- The way made after some time, by what has passed of each phase. -/
noncomputable def wayAt (τ : ℝ) : ℝ :=
  rampWay course.acceleration (course.rising τ) + course.speed * course.cruising τ +
    (course.speed * course.falling τ - rampWay course.acceleration (course.falling τ))

theorem ramp_pos : 0 < course.ramp := div_pos course.speed_pos course.acceleration_pos

theorem two_ramp_le : 2 * course.ramp ≤ course.time := course.fits

theorem acceleration_mul_ramp : course.acceleration * course.ramp = course.speed :=
  mul_div_cancel₀ _ course.acceleration_pos.ne'

/-! ### Speed -/

theorem speedAt_nonneg (τ : ℝ) : 0 ≤ course.speedAt τ := le_max_left _ _

theorem speedAt_le (τ : ℝ) : course.speedAt τ ≤ course.speed :=
  max_le course.speed_pos.le (min_le_left _ _)

theorem abs_speedAt_sub_le (τ τ' : ℝ) :
    |course.speedAt τ - course.speedAt τ'| ≤ course.acceleration * |τ - τ'| := by
  have rate (x y : ℝ) (same : |x - y| = |τ - τ'|) :
      |course.acceleration * x - course.acceleration * y| = course.acceleration * |τ - τ'| := by
    rw [← mul_sub, abs_mul, abs_of_pos course.acceleration_pos, same]
  have up := rate τ τ' rfl
  have down := rate (course.time - τ) (course.time - τ')
    (by rw [sub_sub_sub_cancel_left, abs_sub_comm])
  have nonneg : 0 ≤ course.acceleration * |τ - τ'| :=
    mul_nonneg course.acceleration_pos.le (abs_nonneg _)
  refine (abs_max_sub_max_le_max _ _ _ _).trans (max_le (by simpa using nonneg) ?_)
  refine (abs_min_sub_min_le_max _ _ _ _).trans (max_le (by simpa using nonneg) ?_)
  exact (abs_min_sub_min_le_max _ _ _ _).trans (max_le up.le down.le)

theorem continuous_speedAt : Continuous course.speedAt := by
  unfold speedAt
  fun_prop

/-! ### Way -/

theorem continuous_wayAt : Continuous course.wayAt := by
  unfold wayAt rampWay rising cruising falling
  fun_prop

theorem monotone_part (bound offset : ℝ) : Monotone fun τ : ℝ => max 0 (min bound (τ - offset)) :=
  fun _ _ later => max_le_max le_rfl (min_le_min le_rfl (sub_le_sub_right later _))

theorem falling_le (τ : ℝ) : course.falling τ ≤ course.ramp :=
  max_le course.ramp_pos.le (min_le_left _ _)

theorem monotone_wayAt : Monotone course.wayAt := by
  intro τ τ' later
  have rise : course.rising τ ≤ course.rising τ' :=
    max_le_max le_rfl (min_le_min le_rfl later)
  have cruise : course.cruising τ ≤ course.cruising τ' := monotone_part _ _ later
  have fall : course.falling τ ≤ course.falling τ' := monotone_part _ _ later
  have ramps : 1 / 2 * course.acceleration * course.rising τ ^ 2 ≤
      1 / 2 * course.acceleration * course.rising τ' ^ 2 := by
    have := course.acceleration_pos
    have start : 0 ≤ course.rising τ := le_max_left _ _
    gcongr
  have level : course.speed * course.cruising τ ≤ course.speed * course.cruising τ' :=
    mul_le_mul_of_nonneg_left cruise course.speed_pos.le
  have drop : course.speed * course.falling τ' - 1 / 2 * course.acceleration * course.falling τ' ^ 2 -
      (course.speed * course.falling τ - 1 / 2 * course.acceleration * course.falling τ ^ 2) =
      1 / 2 * ((course.falling τ' - course.falling τ) * (course.acceleration *
        ((course.ramp - course.falling τ') + (course.ramp - course.falling τ)))) := by
    rw [← course.acceleration_mul_ramp]
    ring
  -- Slowing down, the speed stays positive as no more than a whole ramp has passed.
  have slow : 0 ≤ (course.falling τ' - course.falling τ) * (course.acceleration *
      ((course.ramp - course.falling τ') + (course.ramp - course.falling τ))) :=
    mul_nonneg (sub_nonneg.mpr fall) (mul_nonneg course.acceleration_pos.le
      (add_nonneg (sub_nonneg.mpr (course.falling_le τ')) (sub_nonneg.mpr (course.falling_le τ))))
  simp only [wayAt, rampWay]
  linarith only [ramps, level, drop, slow]

/-! ### Phases -/

theorem before (early : τ ≤ 0) : course.wayAt τ = 0 ∧ course.speedAt τ = 0 := by
  have ramp := course.ramp_pos
  have fits := course.two_ramp_le
  have rising : course.rising τ = 0 := max_eq_left ((min_le_right _ _).trans early)
  have cruising : course.cruising τ = 0 :=
    max_eq_left ((min_le_right _ _).trans (by linarith))
  have falling : course.falling τ = 0 :=
    max_eq_left ((min_le_right _ _).trans (by linarith))
  refine ⟨by simp [wayAt, rampWay, rising, cruising, falling], max_eq_left ?_⟩
  exact (min_le_right _ _).trans ((min_le_left _ _).trans
    (mul_nonpos_of_nonneg_of_nonpos course.acceleration_pos.le early))

theorem inRise (started : 0 ≤ τ) (early : τ ≤ course.ramp) :
    course.wayAt τ = 1 / 2 * course.acceleration * τ ^ 2 ∧
      course.speedAt τ = course.acceleration * τ := by
  have fits := course.two_ramp_le
  have rising : course.rising τ = τ := by rw [Course.rising, min_eq_right early, max_eq_right started]
  have cruising : course.cruising τ = 0 := max_eq_left ((min_le_right _ _).trans (by linarith))
  have falling : course.falling τ = 0 := max_eq_left ((min_le_right _ _).trans (by linarith))
  have slower : course.acceleration * τ ≤ course.speed :=
    course.acceleration_mul_ramp ▸ mul_le_mul_of_nonneg_left early course.acceleration_pos.le
  have sooner : course.acceleration * τ ≤ course.acceleration * (course.time - τ) :=
    mul_le_mul_of_nonneg_left (by linarith) course.acceleration_pos.le
  refine ⟨by simp [wayAt, rampWay, rising, cruising, falling], ?_⟩
  rw [speedAt, min_eq_left sooner, min_eq_right slower,
    max_eq_right (mul_nonneg course.acceleration_pos.le started)]

theorem inCruise (late : course.ramp ≤ τ) (early : τ ≤ course.time - course.ramp) :
    course.wayAt τ = 1 / 2 * course.acceleration * course.ramp ^ 2 +
        course.speed * (τ - course.ramp) ∧
      course.speedAt τ = course.speed := by
  have ramp := course.ramp_pos
  have rising : course.rising τ = course.ramp := by
    rw [Course.rising, min_eq_left late, max_eq_right ramp.le]
  have cruising : course.cruising τ = τ - course.ramp := by
    rw [Course.cruising, min_eq_right (by linarith), max_eq_right (by linarith)]
  have falling : course.falling τ = 0 := max_eq_left ((min_le_right _ _).trans (by linarith))
  have reached : course.speed ≤ course.acceleration * τ :=
    course.acceleration_mul_ramp ▸ mul_le_mul_of_nonneg_left late course.acceleration_pos.le
  have kept : course.speed ≤ course.acceleration * (course.time - τ) :=
    course.acceleration_mul_ramp ▸
      mul_le_mul_of_nonneg_left (by linarith) course.acceleration_pos.le
  refine ⟨by simp [wayAt, rampWay, rising, cruising, falling], ?_⟩
  rw [speedAt, min_eq_left (le_min reached kept), max_eq_right course.speed_pos.le]

theorem inFall (late : course.time - course.ramp ≤ τ) (early : τ ≤ course.time) :
    course.wayAt τ = course.length - 1 / 2 * course.acceleration * (course.time - τ) ^ 2 ∧
      course.speedAt τ = course.acceleration * (course.time - τ) := by
  have ramp := course.ramp_pos
  have fits := course.two_ramp_le
  have reach := course.acceleration_mul_ramp
  have rising : course.rising τ = course.ramp := by
    rw [Course.rising, min_eq_left (by linarith), max_eq_right ramp.le]
  have cruising : course.cruising τ = course.time - course.ramp - course.ramp := by
    rw [Course.cruising, min_eq_left (by linarith), max_eq_right (by linarith)]
  have falling : course.falling τ = τ - (course.time - course.ramp) := by
    rw [Course.falling, min_eq_right (by linarith), max_eq_right (by linarith)]
  have slower : course.acceleration * (course.time - τ) ≤ course.speed :=
    reach ▸ mul_le_mul_of_nonneg_left (by linarith) course.acceleration_pos.le
  have later : course.acceleration * (course.time - τ) ≤ course.acceleration * τ :=
    mul_le_mul_of_nonneg_left (by linarith) course.acceleration_pos.le
  refine ⟨?_, ?_⟩
  · rw [wayAt, rampWay, rampWay, rising, cruising, falling, length, ← reach]
    ring
  · rw [speedAt, min_eq_right later, min_eq_right slower,
      max_eq_right (mul_nonneg course.acceleration_pos.le (by linarith))]

theorem after (late : course.time ≤ τ) :
    course.wayAt τ = course.length ∧ course.speedAt τ = 0 := by
  have ramp := course.ramp_pos
  have fits := course.two_ramp_le
  have reach := course.acceleration_mul_ramp
  have rising : course.rising τ = course.ramp := by
    rw [Course.rising, min_eq_left (by linarith), max_eq_right ramp.le]
  have cruising : course.cruising τ = course.time - course.ramp - course.ramp := by
    rw [Course.cruising, min_eq_left (by linarith), max_eq_right (by linarith)]
  have falling : course.falling τ = course.ramp := by
    rw [Course.falling, min_eq_left (by linarith), max_eq_right ramp.le]
  refine ⟨?_, max_eq_left ?_⟩
  · rw [wayAt, rampWay, rampWay, rising, cruising, falling, length, ← reach]
    ring
  · exact (min_le_right _ _).trans ((min_le_right _ _).trans
      (mul_nonpos_of_nonneg_of_nonpos course.acceleration_pos.le (by linarith)))

theorem length_pos : 0 < course.length := by
  have ramp := course.ramp_pos
  have fits := course.two_ramp_le
  exact mul_pos course.speed_pos (by linarith)

theorem wayAt_mem (τ : ℝ) : course.wayAt τ ∈ Set.Icc 0 course.length := by
  rcases le_total τ 0 with early | started
  · rw [(course.before early).1]
    exact ⟨le_rfl, course.length_pos.le⟩
  · rcases le_total τ course.time with running | past
    · exact ⟨(course.before le_rfl).1 ▸ course.monotone_wayAt started,
        (course.after le_rfl).1 ▸ course.monotone_wayAt running⟩
    · rw [(course.after past).1]
      exact ⟨course.length_pos.le, le_rfl⟩

/-! ### Sampling -/

/-- The trapezoid that makes a course with the sign of a distance. -/
noncomputable def toward (distance : ℝ) : Trapezoid ℝ :=
  ⟨direction distance * course.speed, direction distance * course.acceleration⟩

theorem abs_toward_velocity (distance : ℝ) : |(course.toward distance).velocity| = course.speed := by
  rw [toward, abs_mul, abs_direction, one_mul, abs_of_pos course.speed_pos]

theorem toward_ramp (distance : ℝ) :
    (course.toward distance).velocity / (course.toward distance).acceleration = course.ramp :=
  mul_div_mul_left _ _ (abs_pos.mp (abs_direction distance ▸ one_pos))

/-- Sampled in a direction, a course makes its way at its speed. -/
theorem sample_eq (counts : Scalar.epsilon ≤ course.speed) (start distance τ : ℝ) :
    (course.toward distance).sample start (start + direction distance * course.length) τ
        course.time =
      (start + direction distance * course.wayAt τ, direction distance * course.speedAt τ) := by
  have moving : ¬ |(course.toward distance).velocity| < Scalar.epsilon := by
    rw [abs_toward_velocity, not_lt]
    exact counts
  simp only [Trapezoid.sample_eq, toward_ramp, moving, false_or]
  simp only [toward]
  split_ifs with past waiting up level
  · rw [(course.after past).1, (course.after past).2, mul_zero]
  · rw [(course.before waiting).1, (course.before waiting).2, mul_zero, add_zero]
  · obtain ⟨way, speed⟩ := course.inRise (not_le.mp waiting).le up.le
    rw [way, speed]
    ring_nf
  · obtain ⟨way, speed⟩ := course.inCruise (not_lt.mp up) level.le
    rw [way, speed]
    ring_nf
  · obtain ⟨way, speed⟩ := course.inFall (not_lt.mp level) (not_le.mp past).le
    rw [way, speed]
    ring_nf

end Course

variable {distance time maxVelocity maxAcceleration : ℝ} {trapezoid : Trapezoid ℝ}

section Cruise

variable {way : ℝ} (acceleration_pos : 0 < maxAcceleration)
include acceleration_pos

theorem cruise_pos (way_pos : 0 < way) (time_pos : 0 < time) :
    0 < cruise way time maxAcceleration := by
  have smaller : discriminant way time maxAcceleration < (maxAcceleration * time) ^ 2 := by
    have := mul_pos acceleration_pos way_pos
    rw [discriminant]
    linarith
  have root := (Real.sqrt_lt' (mul_pos acceleration_pos time_pos)).mpr smaller
  exact half_pos (sub_pos.mpr root)

theorem cruise_fits : 2 * (cruise way time maxAcceleration / maxAcceleration) ≤ time := by
  have root := Real.sqrt_nonneg (discriminant way time maxAcceleration)
  rw [← mul_div_assoc, div_le_iff₀ acceleration_pos, cruise]
  linarith

/-- The speed planned for is a root of the equation it is planned from. -/
theorem cruise_mul (feasible : 0 ≤ discriminant way time maxAcceleration) :
    cruise way time maxAcceleration *
      (time - cruise way time maxAcceleration / maxAcceleration) = way := by
  have square := Real.mul_self_sqrt feasible
  rw [cruise]
  generalize √(discriminant way time maxAcceleration) = root at square ⊢
  rw [discriminant] at square
  field_simp
  linarith only [square]

end Cruise

/-- A trapezoid planned with a speed that counts is a course over the distance. -/
theorem exists_course (planned : plan distance time maxVelocity maxAcceleration = some trapezoid)
    (moving : Scalar.epsilon ≤ |trapezoid.velocity|) :
    ∃ course : Course, trapezoid = course.toward distance ∧ course.length = |distance| ∧
      course.time = time ∧ course.acceleration = maxAcceleration ∧ course.speed ≤ maxVelocity := by
  rw [plan_eq] at planned
  split_ifs at planned with none_to_go unfit infeasible fast
  · cases planned
    rw [abs_zero] at moving
    exact absurd epsilon_pos (not_lt.mpr moving)
  · obtain ⟨time_pos, acceleration_pos⟩ : 0 < time ∧ 0 < maxAcceleration := by
      simpa only [not_or, not_le] using unfit
    have way_pos : 0 < |distance| := epsilon_pos.trans_le (not_lt.mp none_to_go)
    have speed_pos := cruise_pos acceleration_pos way_pos time_pos
    cases planned
    rw [withSign_eq speed_pos.le, withSign_eq acceleration_pos.le]
    exact ⟨⟨_, _, _, speed_pos, acceleration_pos, cruise_fits acceleration_pos⟩, rfl,
      cruise_mul acceleration_pos (not_lt.mp infeasible), rfl, rfl, not_lt.mp fast⟩

/-! ### The motion -/

/-- A trapezoid over a distance inside limits: it speeds up and slows down at the largest
acceleration, and between its ramps goes as far as it has to. -/
structure Inside (trapezoid : Trapezoid ℝ) (distance time maxVelocity maxAcceleration : ℝ) :
    Prop where
  velocity_sign : SignType.sign trapezoid.velocity = SignType.sign distance
  acceleration_sign : SignType.sign trapezoid.acceleration = SignType.sign distance
  abs_acceleration : |trapezoid.acceleration| = maxAcceleration
  abs_velocity_le : |trapezoid.velocity| ≤ maxVelocity
  distance_eq : trapezoid.velocity * (time - trapezoid.velocity / trapezoid.acceleration) = distance
  ramp_pos : 0 < trapezoid.velocity / trapezoid.acceleration
  ramps_fit : 2 * (trapezoid.velocity / trapezoid.acceleration) ≤ time

/-- Positions and velocities that lead from rest to rest without turning back. -/
structure RestToRest (motion : ℝ → ℝ × ℝ) (start stop time velocity acceleration : ℝ) : Prop where
  before : ∀ τ ≤ 0, motion τ = (start, 0)
  after : ∀ τ, time ≤ τ → motion τ = (stop, 0)
  continuous : Continuous motion
  monotone : start ≤ stop → Monotone fun τ => (motion τ).1
  antitone : stop ≤ start → Antitone fun τ => (motion τ).1
  inside : ∀ τ, (motion τ).1 ∈ Set.uIcc start stop
  abs_velocity_le : ∀ τ, |(motion τ).2| ≤ velocity
  velocity_change_le : ∀ τ τ', |(motion τ).2 - (motion τ').2| ≤ acceleration * |τ - τ'|

section Course

variable (course : Course) (far : course.length = |distance|)
include far

theorem Course.distance_ne_zero : distance ≠ 0 :=
  abs_pos.mp (far ▸ course.length_pos)

theorem Course.toward_inside (maximal : course.speed ≤ maxVelocity) :
    (course.toward distance).Inside distance course.time maxVelocity course.acceleration where
  velocity_sign := sign_direction_mul (course.distance_ne_zero far) course.speed_pos
  acceleration_sign := sign_direction_mul (course.distance_ne_zero far) course.acceleration_pos
  abs_acceleration := by
    rw [toward, abs_mul, abs_direction, one_mul, abs_of_pos course.acceleration_pos]
  abs_velocity_le := (course.abs_toward_velocity distance).trans_le maximal
  distance_eq := by
    rw [toward_ramp, toward, mul_assoc, ← length, far, direction_mul_abs]
  ramp_pos := by
    rw [toward_ramp]
    exact course.ramp_pos
  ramps_fit := by
    rw [toward_ramp]
    exact course.two_ramp_le

/-- A position on the way lies between its ends. -/
theorem Course.position_mem (start τ : ℝ) :
    start + direction distance * course.wayAt τ ∈ Set.uIcc start (start + distance) := by
  obtain ⟨started, ends⟩ := course.wayAt_mem τ
  rw [far] at ends
  rw [Set.mem_uIcc]
  rcases lt_or_ge distance 0 with backwards | onwards
  · rw [abs_of_neg backwards] at ends
    rw [direction_of_neg backwards]
    exact .inr ⟨by linarith, by linarith⟩
  · rw [abs_of_nonneg onwards] at ends
    rw [direction_of_nonneg onwards]
    exact .inl ⟨by linarith, by linarith⟩

theorem Course.restToRest (counts : Scalar.epsilon ≤ course.speed) (start : ℝ) :
    RestToRest (fun τ => (course.toward distance).sample start (start + distance) τ course.time)
      start (start + distance) course.time course.speed course.acceleration := by
  have sampled (τ : ℝ) : (course.toward distance).sample start (start + distance) τ course.time =
      (start + direction distance * course.wayAt τ, direction distance * course.speedAt τ) := by
    rw [← course.sample_eq counts, far, direction_mul_abs]
  simp only [sampled]
  exact {
    before := fun τ early => by
      rw [(course.before early).1, (course.before early).2, mul_zero, add_zero]
    after := fun τ late => by
      rw [(course.after late).1, (course.after late).2, far, direction_mul_abs, mul_zero]
    continuous := by
      have way := course.continuous_wayAt
      have speed := course.continuous_speedAt
      fun_prop
    monotone := fun onwards τ τ' later => by
      have way := course.monotone_wayAt later
      simp only [direction_of_nonneg (le_add_iff_nonneg_right start |>.mp onwards)]
      linarith
    antitone := fun backwards τ τ' later => by
      have way := course.monotone_wayAt later
      have negative := (course.distance_ne_zero far).lt_of_le
        (add_le_iff_nonpos_right start |>.mp backwards)
      simp only [direction_of_neg negative]
      linarith
    inside := course.position_mem far start
    abs_velocity_le := fun τ => by
      rw [abs_mul, abs_direction, one_mul, abs_of_nonneg (course.speedAt_nonneg τ)]
      exact course.speedAt_le τ
    velocity_change_le := fun τ τ' => by
      rw [← mul_sub, abs_mul, abs_direction, one_mul]
      exact course.abs_speedAt_sub_le τ τ' }

end Course

/-- A trapezoid planned with a speed that counts stays inside the limits it was planned for, and
sampling it leads from any position over the whole distance, from rest to rest and without a jump,
never faster than its own speed and never changing its velocity faster than the largest
acceleration allows. -/
theorem motion_of_plan (planned : plan distance time maxVelocity maxAcceleration = some trapezoid)
    (moving : Scalar.epsilon ≤ |trapezoid.velocity|) :
    trapezoid.Inside distance time maxVelocity maxAcceleration ∧
      ∀ start, RestToRest (fun τ => trapezoid.sample start (start + distance) τ time) start
        (start + distance) time |trapezoid.velocity| maxAcceleration := by
  obtain ⟨course, rfl, far, rfl, rfl, maximal⟩ := exists_course planned moving
  rw [course.abs_toward_velocity] at moving ⊢
  exact ⟨course.toward_inside far maximal, course.restToRest far moving⟩

/-- Four units in three units of time: one to reach a speed of two, one at it, one to lose it. -/
theorem motion_of_plan_four :
    plan (4 : ℝ) 3 2 2 = some ⟨2, 2⟩ ∧
      (⟨2, 2⟩ : Trapezoid ℝ).Inside 4 3 2 2 ∧
      ∀ start, RestToRest (fun τ => (⟨2, 2⟩ : Trapezoid ℝ).sample start (start + 4) τ 3) start
        (start + 4) 3 |2| 2 := by
  have root : √(discriminant 4 3 2) = 2 := by
    rw [discriminant, Real.sqrt_eq_iff_mul_self_eq_of_pos two_pos]
    norm_num
  have speed : cruise 4 3 2 = 2 := by
    rw [cruise, root]
    norm_num
  have planned : plan (4 : ℝ) 3 2 2 = some ⟨2, 2⟩ := by
    rw [plan_eq, abs_of_pos four_pos, speed, discriminant, if_neg, if_neg, if_neg, if_neg] <;>
      norm_num [withSign_eq, direction, epsilon_eq]
  have moving : (Scalar.epsilon : ℝ) ≤ |2| := by
    rw [epsilon_eq]
    norm_num
  exact ⟨planned, motion_of_plan planned moving⟩

end ArmLink.Motion.Trapezoid
