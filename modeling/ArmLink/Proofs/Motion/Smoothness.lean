import Mathlib.Analysis.Calculus.ContDiff.Polynomial
import Mathlib.Analysis.Calculus.Deriv.Polynomial
import ArmLink.Proofs.Decimal.Seconds
import ArmLink.Proofs.Motion.Exact
import ArmLink.Proofs.Motion.Locating

/-!
Smooth motion.

A time has one segment, or it lies outside of the trajectory and the profile stands at an end
(`located_of_inOrder`).  Inside a segment that lasts, a joint follows a cubic.  Over the real numbers
there is exactly one cubic with the positions and velocities of both ends of a segment
(`existsUnique_hermite`), and what a profile gives as the velocity is its derivative
(`interpolate_eq_eval`).  At a point between two segments that last, both cubics have the position and
the velocity of the point, so they join into one continuously differentiable function
(`contDiff_joined`).  All of it together is `smooth_of_sample`.
-/

namespace ArmLink.Motion

open Polynomial

/-! ### The cubic of a segment -/

section Hermite

variable {length startPosition stopPosition startVelocity stopVelocity : ℝ}

/-- A cubic that has given positions and velocities at both ends of a segment. -/
structure Hermite (curve : ℝ[X]) (length startPosition stopPosition startVelocity stopVelocity : ℝ) :
    Prop where
  natDegree_le : curve.natDegree ≤ 3
  starts : curve.eval 0 = startPosition
  stops : curve.eval length = stopPosition
  startsAt : curve.derivative.eval 0 = startVelocity
  stopsAt : curve.derivative.eval length = stopVelocity

/-- A cubic in the time of its segment, written in seconds. -/
noncomputable def Cubic.curve (cubic : Cubic ℝ) (length : ℝ) : ℝ[X] :=
  C cubic.c0 + C (cubic.c1 / length) * X + C (cubic.c2 / length ^ 2) * X ^ 2 +
    C (cubic.c3 / length ^ 3) * X ^ 3

theorem Cubic.natDegree_curve_le (cubic : Cubic ℝ) (length : ℝ) :
    (cubic.curve length).natDegree ≤ 3 := by
  unfold curve
  compute_degree

theorem Cubic.eval_curve (cubic : Cubic ℝ) (length t : ℝ) :
    (cubic.curve length).eval t = cubic.position (t / length) := by
  simp only [curve, position, eval_add, eval_mul, eval_C, eval_X, eval_pow]
  ring

theorem Cubic.eval_derivative_curve (cubic : Cubic ℝ) (lasts : 0 < length) (t : ℝ) :
    (cubic.curve length).derivative.eval t = cubic.slope (t / length) / length := by
  simp [curve, slope, derivative_add, derivative_mul]
  field_simp
  ring

theorem hermite_curve (lasts : 0 < length) :
    Hermite ((Cubic.between startPosition startVelocity stopPosition stopVelocity length).curve length)
      length startPosition stopPosition startVelocity stopVelocity where
  natDegree_le := Cubic.natDegree_curve_le _ _
  starts := by
    rw [Cubic.eval_curve, zero_div]
    simp [Cubic.between, Cubic.position]
  stops := by
    rw [Cubic.eval_curve, div_self lasts.ne']
    simp [Cubic.between, Cubic.position]
    ring
  startsAt := by
    rw [Cubic.eval_derivative_curve _ lasts, zero_div]
    simp [Cubic.between, Cubic.slope, lasts.ne']
  stopsAt := by
    rw [Cubic.eval_derivative_curve _ lasts, div_self lasts.ne']
    simp [Cubic.between, Cubic.slope]
    field_simp
    ring

/-- A cubic that is zero and level at two places is zero. -/
theorem eq_zero_of_level {curve : ℝ[X]} (lasts : 0 < length) (level : Hermite curve length 0 0 0 0) :
    curve = 0 := by
  have form := curve.as_sum_range_C_mul_X_pow' (n := 4) (Nat.lt_succ_of_le level.natDegree_le)
  simp only [Finset.sum_range_succ, Finset.sum_range_zero, zero_add] at form
  generalize curve.coeff 0 = c0, curve.coeff 1 = c1, curve.coeff 2 = c2, curve.coeff 3 = c3 at form
  subst form
  have none : c0 = 0 := by simpa using level.starts
  have slopeless : c1 = 0 := by simpa using level.startsAt
  subst none slopeless
  have height : c2 * length ^ 2 + c3 * length ^ 3 = 0 := by simpa using level.stops
  have slope : c2 * ((1 + 1) * length) + c3 * ((2 + 1) * length ^ 2) = 0 := by
    simpa using level.stopsAt
  have cubic : c3 * length ^ 3 = 0 := by linear_combination length * slope - 2 * height
  have square : c2 * length ^ 2 = 0 := by linear_combination height - cubic
  obtain rfl := (mul_eq_zero.mp cubic).resolve_right (pow_pos lasts 3).ne'
  obtain rfl := (mul_eq_zero.mp square).resolve_right (pow_pos lasts 2).ne'
  simp

theorem existsUnique_hermite (lasts : 0 < length)
    (startPosition stopPosition startVelocity stopVelocity : ℝ) :
    ∃! curve, Hermite curve length startPosition stopPosition startVelocity stopVelocity := by
  refine ⟨_, hermite_curve lasts, fun other hermite => sub_eq_zero.mp ?_⟩
  have first : Hermite _ length startPosition stopPosition startVelocity stopVelocity :=
    hermite_curve lasts
  refine eq_zero_of_level lasts ⟨?_, ?_, ?_, ?_, ?_⟩
  · exact (natDegree_sub_le _ _).trans (max_le hermite.natDegree_le first.natDegree_le)
  · rw [eval_sub, hermite.starts, first.starts, sub_self]
  · rw [eval_sub, hermite.stops, first.stops, sub_self]
  · rw [derivative_sub, eval_sub, hermite.startsAt, first.startsAt, sub_self]
  · rw [derivative_sub, eval_sub, hermite.stopsAt, first.stopsAt, sub_self]

/-- Interpolation gives the cubic and its derivative. -/
theorem interpolate_eq_eval {curve : ℝ[X]} {t : ℝ} (lasts : 0 < length)
    (hermite : Hermite curve length startPosition stopPosition startVelocity stopVelocity)
    (inside : t ∈ Set.Icc 0 length) :
    interpolate t length startPosition stopPosition startVelocity stopVelocity =
      (curve.eval t, curve.derivative.eval t) := by
  obtain rfl := (existsUnique_hermite lasts _ _ _ _).unique hermite (hermite_curve lasts)
  have share : min (max (t / length) 0) 1 = t / length := by
    rw [max_eq_left (div_nonneg inside.1 lasts.le), min_eq_left ((div_le_one lasts).mpr inside.2)]
  rw [interpolate_eq lasts, share, Cubic.eval_curve, Cubic.eval_derivative_curve _ lasts]

end Hermite

/-! ### Two segments -/

section Joined

variable {left right : ℝ[X]} {length : ℝ}

/-- One curve up to some time, and from there on another one from its beginning. -/
noncomputable def joined (left right : ℝ[X]) (length t : ℝ) : ℝ :=
  if t ≤ length then left.eval t else right.eval (t - length)

theorem continuous_joined (meet : left.eval length = right.eval 0) :
    Continuous (joined left right length) := by
  refine Continuous.if_le left.continuous (right.continuous.comp (continuous_sub_right length))
    continuous_id continuous_const ?_
  intro t same
  rw [same, sub_self]
  exact meet

theorem joined_of_le {t : ℝ} (meet : left.eval length = right.eval 0) (late : length ≤ t) :
    joined left right length t = right.eval (t - length) := by
  rcases late.eq_or_lt with rfl | later
  · rw [joined, if_pos le_rfl, meet, sub_self]
  · rw [joined, if_neg later.not_ge]

theorem hasDerivAt_joined (meet : left.eval length = right.eval 0)
    (meetAlong : left.derivative.eval length = right.derivative.eval 0) (t : ℝ) :
    HasDerivAt (joined left right length) (joined left.derivative right.derivative length t) t := by
  have before : ∀ t ≤ length, HasDerivWithinAt (joined left right length)
      (joined left.derivative right.derivative length t) (Set.Iic length) t := by
    intro t early
    rw [joined, if_pos early]
    exact (left.hasDerivWithinAt t _).congr (fun x inside => if_pos inside) (if_pos early)
  have after : ∀ t, length ≤ t → HasDerivWithinAt (joined left right length)
      (joined left.derivative right.derivative length t) (Set.Ici length) t := by
    intro t late
    rw [joined_of_le meetAlong late]
    have shifted : HasDerivAt (fun x => right.eval (x - length)) (right.derivative.eval (t - length)) t :=
      (right.hasDerivAt (t - length)).comp_sub_const t length
    exact shifted.hasDerivWithinAt.congr (fun x inside => joined_of_le meet inside)
      (joined_of_le meet late)
  rcases lt_trichotomy t length with early | rfl | late
  · exact (before t early.le).hasDerivAt (Iic_mem_nhds early)
  · have both := (before t le_rfl).union (after t le_rfl)
    rwa [Set.Iic_union_Ici, hasDerivWithinAt_univ] at both
  · exact (after t late.le).hasDerivAt (Ici_mem_nhds late)

/-- Two curves that meet in position and velocity join into a continuously differentiable one. -/
theorem contDiff_joined (meet : left.eval length = right.eval 0)
    (meetAlong : left.derivative.eval length = right.derivative.eval 0) :
    ContDiff ℝ 1 (joined left right length) := by
  have slope : deriv (joined left right length) = joined left.derivative right.derivative length :=
    funext fun t => (hasDerivAt_joined meet meetAlong t).deriv
  rw [contDiff_one_iff_deriv, slope]
  exact ⟨fun t => (hasDerivAt_joined meet meetAlong t).differentiableAt,
    continuous_joined meetAlong⟩

end Joined

/-! ### Sampling -/

section Times

variable {points : List (Waypoint ℝ)} {time later : Duration} {index : Nat}
  {start stop : Waypoint ℝ}

theorem real_lengthOf (order : start.time ≤ stop.time) :
    (lengthOf start stop : ℝ) = (stop.time.nanos - start.time.nanos) / 10 ^ 9 := by
  rw [lengthOf, real_toScalar, Duration.monus, Nat.cast_sub order]

theorem real_elapsedSince (order : start.time ≤ time) :
    (elapsedSince start time : ℝ) = (time.nanos - start.time.nanos) / 10 ^ 9 := by
  rw [elapsedSince, real_toScalar, Duration.monus, Nat.cast_sub order]

theorem lengthOf_pos (lasts : start.time < stop.time) : 0 < (lengthOf start stop : ℝ) := by
  have order : (start.time.nanos : ℝ) < stop.time.nanos := Nat.cast_lt.mpr lasts
  rw [real_lengthOf (Nat.le_of_lt lasts)]
  exact div_pos (sub_pos.mpr order) (by positivity)

theorem elapsedSince_le (begun : start.time ≤ time) (order : time ≤ later) :
    (elapsedSince start time : ℝ) ≤ elapsedSince start later := by
  have order' : (time.nanos : ℝ) ≤ later.nanos := Nat.cast_le.mpr order
  rw [real_elapsedSince begun, real_elapsedSince (Nat.le_trans begun order)]
  gcongr

theorem FallsInto.elapsedSince_mem (falls : FallsInto points time index start stop) :
    (elapsedSince start time : ℝ) ∈ Set.Ico 0 (lengthOf start stop : ℝ) := by
  have begun : (start.time.nanos : ℝ) ≤ time.nanos := Nat.cast_le.mpr falls.begun
  have notOver : (time.nanos : ℝ) < stop.time.nanos := Nat.cast_lt.mpr falls.notOver
  rw [real_elapsedSince falls.begun, real_lengthOf (Nat.le_of_lt falls.lasts), Set.mem_Ico]
  constructor
  · exact div_nonneg (sub_nonneg.mpr begun) (by positivity)
  · gcongr

end Times

section Located

variable {α : Type} [Scalar α]

/-- What a smooth profile looks at to give a sample: an end of the trajectory, or the one segment that
a time falls into.  Its length is above zero, so it can be divided by. -/
structure Located (profile : SmoothProfile α) (time : Duration) : Prop where
  before : time < (profile.points.head profile.points_ne_nil).time →
    profile.sample time = (profile.points.head profile.points_ne_nil).sample
  after : (profile.points.getLast profile.points_ne_nil).time ≤ time →
    profile.sample time = (profile.points.getLast profile.points_ne_nil).sample
  between : (profile.points.head profile.points_ne_nil).time ≤ time →
    time < (profile.points.getLast profile.points_ne_nil).time →
      ∃! index, ∃ start stop, FallsInto profile.points time index start stop
  inside : ∀ index start stop, FallsInto profile.points time index start stop →
    Scalar.lt Scalar.zero (lengthOf start stop : α) = true ∧
      profile.sample time =
        ⟨Vector.ofFn fun joint => (passage start stop joint (elapsedSince start time)).1,
          Vector.ofFn fun joint => (passage start stop joint (elapsedSince start time)).2⟩

theorem located_of_inOrder
    (lasting : ∀ span : Duration, 0 < span.nanos → Scalar.lt Scalar.zero (span.toScalar : α) = true)
    (profile : SmoothProfile α) (ordered : InOrder profile.points) (time : Duration) :
    Located profile time where
  before := profile.sample_of_before ordered
  after := profile.sample_of_after ordered
  between := existsUnique_fallsInto ordered profile.points_ne_nil
  inside := by
    intro index start stop falls
    exact ⟨lasting _ (Nat.sub_pos_of_lt falls.lasts), profile.sample_of_fallsInto ordered falls⟩

theorem float_located (profile : SmoothProfile Float) (ordered : InOrder profile.points)
    (time : Duration) : Located profile time :=
  located_of_inOrder (fun _ lasts => decide_eq_true (Duration.zero_lt_toScalar lasts)) profile ordered
    time

theorem real_located (profile : SmoothProfile ℝ) (ordered : InOrder profile.points)
    (time : Duration) : Located profile time := by
  refine located_of_inOrder (fun span lasts => ?_) profile ordered time
  rw [real_lt, real_zero, real_toScalar, decide_eq_true_iff]
  have positive : (0 : ℝ) < span.nanos := Nat.cast_pos.mpr lasts
  positivity

end Located

section Smooth

variable {profile : SmoothProfile ℝ} {start stop : Waypoint ℝ}

/-- The cubic of a joint between two points. -/
def CurveOf (curve : ℝ[X]) (start stop : Waypoint ℝ) (joint : Fin jointCount) : Prop :=
  Hermite curve (lengthOf start stop) (start.positions.get joint) (stop.positions.get joint)
    (start.velocities.get joint) (stop.velocities.get joint)

theorem interpolate_of_curve {curve : ℝ[X]} {joint : Fin jointCount} {t : ℝ}
    (lasts : start.time < stop.time) (hermite : CurveOf curve start stop joint)
    (inside : t ∈ Set.Icc 0 (lengthOf start stop : ℝ)) :
    passage start stop joint t = (curve.eval t, curve.derivative.eval t) :=
  interpolate_eq_eval (lengthOf_pos lasts) hermite inside

/-- A smooth profile follows one cubic for each joint and segment; the velocity it gives is the
derivative of the position, and where two segments that last have a point in common, their cubics
join. -/
structure Smooth (profile : SmoothProfile ℝ) : Prop where
  curve : ∀ start stop, Neighbours profile.points start stop → ∀ joint,
    ∃! curve, CurveOf curve start stop joint
  follows : ∀ time index start stop, FallsInto profile.points time index start stop →
    ∀ joint curve, CurveOf curve start stop joint →
      (profile.sample time).positions.get joint = curve.eval (elapsedSince start time) ∧
        (profile.sample time).velocities.get joint =
          curve.derivative.eval (elapsedSince start time)
  /-- At every moment of a segment, not only at whole nanoseconds. -/
  moves : ∀ start stop, Neighbours profile.points start stop → ∀ joint,
    ∀ t ∈ Set.Icc 0 (lengthOf start stop : ℝ),
      HasDerivWithinAt (fun t => (passage start stop joint t).1) (passage start stop joint t).2
        (Set.Icc 0 (lengthOf start stop)) t
  joins : ∀ start middle stop, Neighbours profile.points start middle →
    Neighbours profile.points middle stop → ∀ joint,
      passage start middle joint (lengthOf start middle) =
          (middle.positions.get joint, middle.velocities.get joint) ∧
        passage middle stop joint 0 =
          (middle.positions.get joint, middle.velocities.get joint) ∧
        ∀ left right, CurveOf left start middle joint → CurveOf right middle stop joint →
          ContDiff ℝ 1 (joined left right (lengthOf start middle))

theorem smooth_of_inOrder (ordered : InOrder profile.points) : Smooth profile where
  curve := by
    intro start stop neighbours joint
    exact existsUnique_hermite (lengthOf_pos neighbours.lasts) _ _ _ _
  follows := by
    intro time index start stop falls joint curve hermite
    have inside := Set.Ico_subset_Icc_self falls.elapsedSince_mem
    have followed := interpolate_of_curve falls.lasts hermite inside
    rw [profile.sample_of_fallsInto ordered falls]
    simp only [Vector.get_ofFn, followed, and_self]
  moves := by
    intro start stop neighbours joint t inside
    obtain ⟨curve, hermite, -⟩ := existsUnique_hermite (lengthOf_pos neighbours.lasts)
      (start.positions.get joint) (stop.positions.get joint) (start.velocities.get joint)
      (stop.velocities.get joint)
    rw [interpolate_of_curve neighbours.lasts hermite inside]
    refine (curve.hasDerivWithinAt t _).congr ?_ ?_
    · intro x insideToo
      rw [interpolate_of_curve neighbours.lasts hermite insideToo]
    · rw [interpolate_of_curve neighbours.lasts hermite inside]
  joins := by
    intro start middle stop before after joint
    have first := lengthOf_pos before.lasts
    have second := lengthOf_pos after.lasts
    obtain ⟨left, ends, -⟩ := existsUnique_hermite first (start.positions.get joint)
      (middle.positions.get joint) (start.velocities.get joint) (middle.velocities.get joint)
    obtain ⟨right, begins, -⟩ := existsUnique_hermite second (middle.positions.get joint)
      (stop.positions.get joint) (middle.velocities.get joint) (stop.velocities.get joint)
    refine ⟨?_, ?_, ?_⟩
    · rw [interpolate_of_curve before.lasts ends ⟨first.le, le_rfl⟩, ends.stops, ends.stopsAt]
    · rw [interpolate_of_curve after.lasts begins ⟨le_rfl, second.le⟩, begins.starts,
        begins.startsAt]
    · intro left right ends begins
      exact contDiff_joined (ends.stops.trans begins.starts.symm)
        (ends.stopsAt.trans begins.startsAt.symm)

end Smooth

/-- A smooth profile over points in order stands at the ends outside of them and follows the one
segment that lasts around any other time, for doubles and real numbers alike.  Over the real numbers
what it follows are cubics that join. -/
theorem smooth_of_sample :
    (∀ profile : SmoothProfile Float, InOrder profile.points → ∀ time, Located profile time) ∧
      ∀ profile : SmoothProfile ℝ, InOrder profile.points →
        (∀ time, Located profile time) ∧ Smooth profile :=
  ⟨float_located, fun profile ordered => ⟨real_located profile ordered, smooth_of_inOrder ordered⟩⟩

/-- All joints to one, at the same moment to two, and back; with one velocity all the time. -/
def detour {α : Type} [Scalar α] (velocity : α) : SmoothProfile α where
  points :=
    [⟨Joints.same Scalar.zero, Joints.same velocity, .zero⟩,
      ⟨Joints.same Scalar.one, Joints.same velocity, .ofMillis 500⟩,
      ⟨Joints.same (Scalar.ofNat 2), Joints.same velocity, .ofMillis 500⟩,
      ⟨Joints.same Scalar.zero, Joints.same velocity, .ofMillis 1200⟩]
  points_ne_nil := List.cons_ne_nil _ _

theorem detour_inOrder {α : Type} [Scalar α] (velocity : α) : InOrder (detour velocity).points := by
  simp only [InOrder, detour, List.pairwise_cons, List.mem_cons, List.not_mem_nil, or_false,
    forall_eq_or_imp, forall_eq, false_imp_iff, implies_true, List.Pairwise.nil, and_true]
  decide

theorem smooth_of_sample_detour :
    InOrder (detour (1 : Float)).points ∧ (∀ time, Located (detour (1 : Float)) time) ∧
      InOrder (detour (1 : ℝ)).points ∧ (∀ time, Located (detour (1 : ℝ)) time) ∧
        Smooth (detour (1 : ℝ)) :=
  ⟨detour_inOrder _, smooth_of_sample.1 _ (detour_inOrder _), detour_inOrder _,
    smooth_of_sample.2 _ (detour_inOrder _)⟩

end ArmLink.Motion
