import ArmLink.Proofs.Motion.Ramps
import ArmLink.Proofs.Motion.Smoothness

/-!
Smooth motion between points at rest.

With no velocity at either end the cubic of a segment is the way between its points times `eased`, a
function of the share of the time that has passed.  That function rises from zero to one, is as far from
one at the end as it is from zero at the beginning, and is nowhere steeper than three halves, so a joint
neither turns back nor leaves the positions between its points (`restToRest_passage`).  The share is cut
off at zero and one, so all of this holds of every real time, and no less of the times that a profile is
sampled at (`gentle_of_resting`).
-/

namespace ArmLink.Motion

section Share

variable {length : ℝ}

/-- How much of a segment has passed, from none to all of it. -/
noncomputable def share (length t : ℝ) : ℝ := min (max (t / length) 0) 1

theorem share_mem (length t : ℝ) : share length t ∈ Set.Icc 0 1 :=
  ⟨le_min (le_max_right _ _) zero_le_one, min_le_right _ _⟩

theorem continuous_share (length : ℝ) : Continuous (share length) := by
  unfold share
  fun_prop

variable (lasts : 0 < length)
include lasts

theorem share_of_nonpos {t : ℝ} (early : t ≤ 0) : share length t = 0 := by
  rw [share, max_eq_right (div_nonpos_of_nonpos_of_nonneg early lasts.le), min_eq_left zero_le_one]

theorem share_of_length_le {t : ℝ} (late : length ≤ t) : share length t = 1 :=
  min_eq_right (le_max_of_le_left ((one_le_div lasts).mpr late))

theorem monotone_share : Monotone (share length) := by
  intro t t' later
  exact min_le_min_right 1 (max_le_max_right 0 (div_le_div_of_nonneg_right later lasts.le))

theorem share_sub (t : ℝ) : share length (length - t) = 1 - share length t := by
  rcases le_total t 0 with early | started
  · rw [share_of_nonpos lasts early, share_of_length_le lasts (by linarith), sub_zero]
  rcases le_total length t with late | running
  · rw [share_of_length_le lasts late, share_of_nonpos lasts (by linarith), sub_self]
  · have inside {u : ℝ} (begun : 0 ≤ u) (notOver : u ≤ length) : share length u = u / length := by
      rw [share, max_eq_left (div_nonneg begun lasts.le), min_eq_left ((div_le_one lasts).mpr notOver)]
    rw [inside started running, inside (by linarith) (by linarith), sub_div, div_self lasts.ne']

theorem abs_share_sub_le (t t' : ℝ) : |share length t - share length t'| ≤ |t - t'| / length := by
  have nonneg : 0 ≤ |t - t'| / length := div_nonneg (abs_nonneg _) lasts.le
  refine (abs_min_sub_min_le_max _ _ _ _).trans (max_le ?_ (by simpa using nonneg))
  refine (abs_max_sub_max_le_max _ _ _ _).trans (max_le ?_ (by simpa using nonneg))
  rw [← sub_div, abs_div, abs_of_pos lasts]

end Share

/-! ### From zero to one and at rest at both -/

section Eased

noncomputable def eased (s : ℝ) : ℝ := s ^ 3 + 3 * s ^ 2 * (1 - s)

/-- The derivative of `eased`. -/
noncomputable def steepness (s : ℝ) : ℝ := 6 * (s * (1 - s))

theorem eased_one_sub (s : ℝ) : eased (1 - s) = 1 - eased s := by
  unfold eased
  ring

theorem monotoneOn_eased : MonotoneOn eased (Set.Icc 0 1) := by
  rintro s ⟨nonneg, -⟩ s' ⟨-, le_one⟩ order
  have difference : eased s' - eased s =
      (s' - s) * (2 * (s * (1 - s)) + 2 * (s' * (1 - s')) + s * (1 - s') + s' * (1 - s)) := by
    unfold eased
    ring
  have ahead : 0 ≤ s' - s := sub_nonneg.mpr order
  have left : 0 ≤ 1 - s := sub_nonneg.mpr (order.trans le_one)
  have left' : 0 ≤ 1 - s' := sub_nonneg.mpr le_one
  have nonneg' : 0 ≤ s' := nonneg.trans order
  rw [← sub_nonneg, difference]
  positivity

theorem eased_mem {s : ℝ} (inside : s ∈ Set.Icc 0 1) : eased s ∈ Set.Icc 0 1 := by
  have zero : eased 0 = 0 := by norm_num [eased]
  have one : eased 1 = 1 := by norm_num [eased]
  exact ⟨zero ▸ monotoneOn_eased ⟨le_rfl, zero_le_one⟩ inside inside.1,
    one ▸ monotoneOn_eased inside ⟨zero_le_one, le_rfl⟩ inside.2⟩

theorem abs_steepness_le {s : ℝ} (inside : s ∈ Set.Icc 0 1) : |steepness s| ≤ 3 / 2 := by
  have nonneg : 0 ≤ steepness s :=
    mul_nonneg (by norm_num) (mul_nonneg inside.1 (sub_nonneg.mpr inside.2))
  -- It is greatest in the middle.
  have middle : 3 / 2 - steepness s = 6 * (s - 1 / 2) ^ 2 := by
    unfold steepness
    ring
  rw [abs_of_nonneg nonneg, ← sub_nonneg, middle]
  positivity

theorem abs_steepness_sub_le {s s' : ℝ} (inside : s ∈ Set.Icc 0 1) (inside' : s' ∈ Set.Icc 0 1) :
    |steepness s - steepness s'| ≤ 6 * |s - s'| := by
  have difference : steepness s - steepness s' = 6 * ((s - s') * (1 - s - s')) := by
    unfold steepness
    ring
  have factor : |1 - s - s'| ≤ 1 := by
    rw [abs_le]
    constructor <;> linarith [inside.1, inside.2, inside'.1, inside'.2]
  rw [difference, abs_mul, abs_mul, abs_of_pos (by norm_num : (0 : ℝ) < 6)]
  exact mul_le_mul_of_nonneg_left (mul_le_of_le_one_right (abs_nonneg _) factor) (by norm_num)

end Eased

/-! ### A segment -/

theorem interpolate_resting {length : ℝ} (lasts : 0 < length) (startPosition stopPosition t : ℝ) :
    interpolate t length startPosition stopPosition 0 0 =
      (startPosition + (stopPosition - startPosition) * eased (share length t),
        (stopPosition - startPosition) * steepness (share length t) / length) := by
  rw [interpolate_eq lasts]
  simp only [Cubic.between, Cubic.position, Cubic.slope, share, eased, steepness, real_ofNat]
  push_cast
  ring_nf

section Segment

variable {start stop : Waypoint ℝ}
  (startResting : start.velocities = Joints.same 0) (stopResting : stop.velocities = Joints.same 0)
  (lasts : start.time < stop.time)
include startResting stopResting lasts

theorem passage_resting (joint : Fin jointCount) (t : ℝ) :
    passage start stop joint t =
      (start.positions.get joint + (stop.positions.get joint - start.positions.get joint) *
          eased (share (lengthOf start stop) t),
        (stop.positions.get joint - start.positions.get joint) *
          steepness (share (lengthOf start stop) t) / lengthOf start stop) := by
  rw [← interpolate_resting (lengthOf_pos lasts), passage, startResting, stopResting]
  simp

/-- What is left of the way at a time is what has been made of it that long before the end. -/
theorem passage_mirror (joint : Fin jointCount) (t : ℝ) :
    (passage start stop joint (lengthOf start stop - t)).1 + (passage start stop joint t).1 =
      start.positions.get joint + stop.positions.get joint := by
  rw [passage_resting startResting stopResting lasts, passage_resting startResting stopResting lasts,
    share_sub (lengthOf_pos lasts), eased_one_sub]
  ring

theorem restToRest_passage (joint : Fin jointCount) :
    Trapezoid.RestToRest (passage start stop joint) (start.positions.get joint)
      (stop.positions.get joint) (lengthOf start stop)
      (3 / 2 * |stop.positions.get joint - start.positions.get joint| / lengthOf start stop)
      (6 * |stop.positions.get joint - start.positions.get joint| / lengthOf start stop ^ 2) := by
  have length_pos := lengthOf_pos lasts
  have passed := passage_resting startResting stopResting lasts joint
  have rising {t t' : ℝ} (later : t ≤ t') : eased (share (lengthOf start stop) t) ≤
      eased (share (lengthOf start stop) t') :=
    monotoneOn_eased (share_mem _ _) (share_mem _ _) (monotone_share length_pos later)
  constructor
  case before =>
    intro t early
    rw [passed, share_of_nonpos length_pos early]
    simp [eased, steepness]
  case after =>
    intro t late
    rw [passed, share_of_length_le length_pos late]
    norm_num [eased, steepness]
  case continuous =>
    have shared := continuous_share (lengthOf start stop)
    rw [funext passed]
    unfold eased steepness
    fun_prop
  case monotone =>
    intro onwards t t' later
    simp only [passed]
    have := mul_le_mul_of_nonneg_left (rising later) (sub_nonneg.mpr onwards)
    linarith
  case antitone =>
    intro backwards t t' later
    simp only [passed]
    have := mul_le_mul_of_nonpos_left (rising later) (sub_nonpos.mpr backwards)
    linarith
  case inside =>
    intro t
    have part := eased_mem (share_mem (lengthOf start stop) t)
    rw [passed, ← segment_eq_uIcc, segment_eq_image']
    exact ⟨_, part, congrArg (_ + ·) (mul_comm _ _)⟩
  case abs_velocity_le =>
    intro t
    rw [passed, abs_div, abs_mul, abs_of_pos length_pos, mul_comm (3 / 2 : ℝ)]
    gcongr
    exact abs_steepness_le (share_mem _ _)
  case velocity_change_le =>
    intro t t'
    have slope := abs_steepness_sub_le (share_mem (lengthOf start stop) t)
      (share_mem (lengthOf start stop) t')
    have part := abs_share_sub_le length_pos t t'
    rw [passed, passed, ← sub_div, ← mul_sub, abs_div, abs_mul, abs_of_pos length_pos]
    calc _ ≤ |stop.positions.get joint - start.positions.get joint| *
          (6 * (|t - t'| / lengthOf start stop)) / lengthOf start stop := by gcongr; linarith
      _ = _ := by ring

end Segment

/-! ### Sampling -/

section Sampling

variable {profile : SmoothProfile ℝ} {time other : Duration} {index : Nat} {start stop : Waypoint ℝ}

/-- How a smooth profile moves whose points are all at rest: between the points around a time, from the
one straight to the other, not too fast, and in the second half as in the first one backwards. -/
structure Gentle (profile : SmoothProfile ℝ) : Prop where
  inside : ∀ time index start stop, FallsInto profile.points time index start stop → ∀ joint,
    (profile.sample time).positions.get joint ∈
      Set.uIcc (start.positions.get joint) (stop.positions.get joint)
  slow : ∀ time index start stop, FallsInto profile.points time index start stop → ∀ joint,
    |(profile.sample time).velocities.get joint| ≤
      3 / 2 * |stop.positions.get joint - start.positions.get joint| / lengthOf start stop
  onwards : ∀ time other index start stop, FallsInto profile.points time index start stop →
    FallsInto profile.points other index start stop → time ≤ other → ∀ joint,
      (start.positions.get joint ≤ stop.positions.get joint →
          (profile.sample time).positions.get joint ≤ (profile.sample other).positions.get joint) ∧
        (stop.positions.get joint ≤ start.positions.get joint →
          (profile.sample other).positions.get joint ≤ (profile.sample time).positions.get joint)
  mirrored : ∀ time other index start stop, FallsInto profile.points time index start stop →
    FallsInto profile.points other index start stop →
    time.nanos + other.nanos = start.time.nanos + stop.time.nanos → ∀ joint,
      (profile.sample other).positions.get joint + (profile.sample time).positions.get joint =
        start.positions.get joint + stop.positions.get joint
  /-- At every moment of a segment, not only at whole nanoseconds, and up to both of its ends. -/
  moves : ∀ start stop, Neighbours profile.points start stop → ∀ joint,
    Trapezoid.RestToRest (passage start stop joint) (start.positions.get joint)
        (stop.positions.get joint) (lengthOf start stop)
        (3 / 2 * |stop.positions.get joint - start.positions.get joint| / lengthOf start stop)
        (6 * |stop.positions.get joint - start.positions.get joint| / lengthOf start stop ^ 2) ∧
      ∀ t, (passage start stop joint (lengthOf start stop - t)).1 + (passage start stop joint t).1 =
        start.positions.get joint + stop.positions.get joint

theorem elapsedSince_mirror (falls : FallsInto profile.points time index start stop)
    (fallsToo : FallsInto profile.points other index start stop)
    (opposite : time.nanos + other.nanos = start.time.nanos + stop.time.nanos) :
    (elapsedSince start other : ℝ) = lengthOf start stop - elapsedSince start time := by
  have sum : (time.nanos + other.nanos : ℝ) = start.time.nanos + stop.time.nanos := by
    exact_mod_cast opposite
  rw [real_elapsedSince fallsToo.begun, real_elapsedSince falls.begun,
    real_lengthOf (Nat.le_of_lt falls.lasts), ← sub_div]
  congr 1
  linarith

theorem gentle_of_inOrder (ordered : InOrder profile.points)
    (resting : ∀ point ∈ profile.points, point.velocities = Joints.same 0) : Gentle profile := by
  have ends {start stop : Waypoint ℝ} (neighbours : Neighbours profile.points start stop) :
      start.velocities = Joints.same 0 ∧ stop.velocities = Joints.same 0 := by
    obtain ⟨index, isStart, isStop, -⟩ := neighbours
    exact ⟨resting _ (List.mem_of_getElem? isStart), resting _ (List.mem_of_getElem? isStop)⟩
  have moves {start stop : Waypoint ℝ} (neighbours : Neighbours profile.points start stop)
      (joint : Fin jointCount) := restToRest_passage (ends neighbours).1 (ends neighbours).2
        neighbours.lasts joint
  constructor
  case inside =>
    intro time index start stop falls joint
    simp only [profile.sample_of_fallsInto ordered falls, Vector.get_ofFn]
    exact (moves falls.neighbours joint).inside _
  case slow =>
    intro time index start stop falls joint
    simp only [profile.sample_of_fallsInto ordered falls, Vector.get_ofFn]
    exact (moves falls.neighbours joint).abs_velocity_le _
  case onwards =>
    intro time other index start stop falls fallsToo order joint
    simp only [profile.sample_of_fallsInto ordered falls, profile.sample_of_fallsInto ordered fallsToo,
      Vector.get_ofFn]
    have later := elapsedSince_le falls.begun order
    exact ⟨fun up => (moves falls.neighbours joint).monotone up later,
      fun down => (moves falls.neighbours joint).antitone down later⟩
  case mirrored =>
    intro time other index start stop falls fallsToo opposite joint
    obtain ⟨startResting, stopResting⟩ := ends falls.neighbours
    simp only [profile.sample_of_fallsInto ordered falls, profile.sample_of_fallsInto ordered fallsToo,
      Vector.get_ofFn, elapsedSince_mirror falls fallsToo opposite]
    exact passage_mirror startResting stopResting falls.lasts joint _
  case moves =>
    intro start stop neighbours joint
    obtain ⟨startResting, stopResting⟩ := ends neighbours
    exact ⟨moves neighbours joint, passage_mirror startResting stopResting neighbours.lasts joint⟩

end Sampling

/-- A smooth profile over points in order and at rest stands at its ends outside of them, and moves
gently between the two points around any other time. -/
theorem gentle_of_resting (profile : SmoothProfile ℝ) (ordered : InOrder profile.points)
    (resting : ∀ point ∈ profile.points, point.velocities = Joints.same 0) :
    (∀ time, Located profile time) ∧ Gentle profile :=
  ⟨real_located profile ordered, gentle_of_inOrder ordered resting⟩

/-- The detour with a rest at each of its points. -/
theorem gentle_of_resting_detour :
    InOrder (detour (0 : ℝ)).points ∧
      (∀ point ∈ (detour (0 : ℝ)).points, point.velocities = Joints.same 0) ∧
      (∀ time, Located (detour (0 : ℝ)) time) ∧ Gentle (detour (0 : ℝ)) := by
  have resting : ∀ point ∈ (detour (0 : ℝ)).points, point.velocities = Joints.same 0 := by
    simp [detour]
  exact ⟨detour_inOrder _, resting, gentle_of_resting _ (detour_inOrder _) resting⟩

end ArmLink.Motion
