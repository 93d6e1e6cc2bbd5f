import Mathlib.Analysis.Real.Sqrt
import ArmLink.Motion.Profile

/-!
Motion over the real numbers.

The definitions of motion ask no more of their numbers than the operations of `Scalar`, so they can
be read over the reals, where nothing is rounded and the square root is exact.  `plan_eq` and
`sample_eq` give the planning and the sampling of a trapezoid in terms of the usual operations,
`interpolate_eq` does so for smooth motion.
-/

namespace ArmLink

/-- The real numbers.  All of them are finite, and zero counts as positive. -/
noncomputable instance : Scalar ℝ where
  ofNat n := n
  lt x y := decide (x < y)
  le x y := decide (x ≤ y)
  abs x := |x|
  sqrt := Real.sqrt
  withSign magnitude sign := if sign < 0 then -|magnitude| else |magnitude|
  isFinite _ := true
  roundWithin low high x :=
    let magnitude := ⌊|x| + 1 / 2⌋
    max low (min high (if x < 0 then -magnitude else magnitude))

section Operations

variable (x y : ℝ)

@[simp] theorem real_lt : Scalar.lt x y = decide (x < y) := rfl

@[simp] theorem real_ofNat (n : ℕ) : (Scalar.ofNat n : ℝ) = n := rfl

@[simp] theorem real_zero : (Scalar.zero : ℝ) = 0 := Nat.cast_zero

@[simp] theorem real_half : (Scalar.half : ℝ) = 1 / 2 := by
  change ((1 : ℕ) : ℝ) / ((2 : ℕ) : ℝ) = 1 / 2
  norm_num

@[simp] theorem real_one : (Scalar.one : ℝ) = 1 := Nat.cast_one

theorem real_clamp (low high : ℝ) : Scalar.clamp low high x = min (max x low) high := by
  simp only [Scalar.clamp, real_lt, decide_eq_true_eq]
  have raised : (if x < low then low else x) = max x low := by
    rw [max_def_lt]
  rw [raised, min_comm, min_def_lt]

theorem real_withSign :
    Scalar.withSign x y = if y < 0 then -|x| else |x| := rfl

theorem epsilon_eq : (Scalar.epsilon : ℝ) = 1 / 2 ^ 52 := by
  change ((1 : ℕ) : ℝ) / ((2 ^ 52 : ℕ) : ℝ) = 1 / 2 ^ 52
  norm_num

theorem epsilon_pos : 0 < (Scalar.epsilon : ℝ) := by
  rw [epsilon_eq]
  positivity

end Operations

/-- Seconds, exactly. -/
theorem real_toScalar (span : Duration) : (span.toScalar : ℝ) = span.nanos / 10 ^ 9 := by
  have split : (span.nanos : ℝ) = span.seconds * 10 ^ 9 + span.subsecond := by
    exact_mod_cast (Nat.div_add_mod' span.nanos Duration.nanosPerSecond).symm
  change (span.seconds : ℝ) + (span.subsecond : ℝ) / ((10 ^ 9 : ℕ) : ℝ) = _
  rw [split]
  push_cast
  ring

namespace Motion

/-- Position and velocity of a joint, by how much of the segment has passed. -/
theorem interpolate_eq {length : ℝ} (lasts : 0 < length)
    (time startPosition endPosition startVelocity endVelocity : ℝ) :
    interpolate time length startPosition endPosition startVelocity endVelocity =
      let s := min (max (time / length) 0) 1
      let cubic := Cubic.between startPosition startVelocity endPosition endVelocity length
      (cubic.position s, cubic.slope s / length) := by
  have running : ¬ length ≤ 0 := not_le.mpr lasts
  simp only [interpolate, Scalar.le, real_zero, real_one, real_clamp, decide_eq_true_eq,
    if_neg running]

namespace Trapezoid

/-- The way made in some time when speeding up from rest. -/
noncomputable def rampWay (acceleration time : ℝ) : ℝ := 1 / 2 * acceleration * time ^ 2

noncomputable def discriminant (way time acceleration : ℝ) : ℝ :=
  acceleration * acceleration * time * time - 4 * acceleration * way

/-- The slower of the two speeds at which a way can be made from rest to rest in some time with some
acceleration. -/
noncomputable def cruise (way time acceleration : ℝ) : ℝ :=
  (acceleration * time - √(discriminant way time acceleration)) / 2

theorem plan_eq (distance time maxVelocity maxAcceleration : ℝ) :
    plan distance time maxVelocity maxAcceleration =
      if |distance| < Scalar.epsilon then some ⟨0, 0⟩
      else if time ≤ 0 ∨ maxAcceleration ≤ 0 then none
      else if discriminant |distance| time maxAcceleration < 0 then none
      else if maxVelocity < cruise |distance| time maxAcceleration then none
      else some ⟨Scalar.withSign (cruise |distance| time maxAcceleration) distance,
        Scalar.withSign maxAcceleration distance⟩ := by
  simp only [plan, rest, discriminant, cruise, real_lt, Scalar.le, Scalar.abs, Scalar.sqrt,
    real_ofNat, Scalar.isFinite, real_zero, Nat.cast_ofNat, decide_eq_true_eq, Bool.or_eq_true,
    Bool.not_true, Bool.false_eq_true, or_false]
  rfl

/-- Where a joint is and how fast it goes in the phases of its motion. -/
theorem sample_eq (trapezoid : Trapezoid ℝ) (startPosition endPosition time length : ℝ) :
    trapezoid.sample startPosition endPosition time length =
      let ramp := trapezoid.velocity / trapezoid.acceleration
      if |trapezoid.velocity| < Scalar.epsilon ∨ length ≤ time then (endPosition, 0)
      else if time ≤ 0 then (startPosition, 0)
      else if time < ramp then
        (startPosition + 1 / 2 * trapezoid.acceleration * time * time,
          trapezoid.acceleration * time)
      else if time < length - ramp then
        (startPosition + 1 / 2 * trapezoid.acceleration * ramp * ramp +
          trapezoid.velocity * (time - ramp), trapezoid.velocity)
      else
        (endPosition - 1 / 2 * trapezoid.acceleration * (length - time) * (length - time),
          trapezoid.acceleration * (length - time)) := by
  simp only [sample, real_lt, Scalar.le, Scalar.abs, real_zero, real_half, decide_eq_true_eq,
    Bool.or_eq_true]

end Trapezoid

end Motion

end ArmLink
