import Mathlib
import ArmLink.Proofs.Decimal.Rounding
import ArmLink.Proofs.Motion.Exact
import ArmLink.Servo.Command

/-!
Values in steps of the wire format.

A value is sent as a whole number of steps: the nearest one, a half going away from zero, or the end
of the range of a word that lies nearer.  `IsNearest` says what nearest means, `toInt_toFixed` that
this is the number that is sent, and for doubles `toInt_toFixed_double` says the same of the exact
value of the product.  A nearest number is the only one (`IsNearest.unique`) and grows with the
value (`IsNearest.mono`), so sending a value that came from the wire changes nothing
(`toFixed_fromFixed`).
-/

namespace ArmLink.Servo

/-- The whole number nearest to a value, a half going away from zero. -/
structure IsNearest (value : ℝ) (number : ℤ) : Prop where
  near : |value - number| ≤ 1 / 2
  away : |value - number| = 1 / 2 → |value| ≤ |(number : ℝ)|

/-- A number moved to the nearer end of the range of a word, if it lies outside. -/
def saturated (number : ℤ) : ℤ := max (-2147483648) (min 2147483647 number)

/-- What is left of a value on the wire. -/
def quantized {α : Type} [Scalar α] (value : α) : α := fromFixed (toFixed value)

/-! ### Nearest numbers -/

namespace IsNearest

variable {value other : ℝ} {number count : ℤ}

theorem of_nonneg (nonneg : 0 ≤ value) (above : value - 1 / 2 < number)
    (below : (number : ℝ) ≤ value + 1 / 2) : IsNearest value number where
  near := abs_le.mpr ⟨by linarith, by linarith⟩
  away tie := by
    have half : value - number = -(1 / 2) :=
      ((abs_eq (by norm_num)).mp tie).resolve_left (by linarith)
    rw [abs_of_nonneg nonneg, abs_of_nonneg] <;> linarith

theorem neg (nearest : IsNearest value number) : IsNearest (-value) (-number) := by
  have mirrored : |-value - (-number : ℤ)| = |value - number| := by
    rw [← abs_neg]
    push_cast
    ring_nf
  constructor
  · rw [mirrored]
    exact nearest.near
  · rw [mirrored, abs_neg]
    intro tie
    simpa using nearest.away tie

theorem of_whole (number : ℤ) : IsNearest number number := by
  constructor <;> simp

/-- Two neighbours are equally near only to a half, and then one of them is nearer to zero. -/
theorem le (first : IsNearest value number) (second : IsNearest value count) :
    count ≤ number := by
  by_contra less
  have apart : (number : ℝ) + 1 ≤ count := by exact_mod_cast not_le.mp less
  have firstNear := abs_le.mp first.near
  have secondNear := abs_le.mp second.near
  have half : value = number + 1 / 2 := by linarith
  have next : (count : ℝ) = number + 1 := by linarith
  have lower := first.away (by rw [half, add_sub_cancel_left, abs_of_pos one_half_pos])
  have upper := second.away (by rw [half, next, abs_of_neg] <;> linarith)
  rw [next] at upper
  rcases le_or_gt 0 number with nonneg | negative
  · have nonneg : (0 : ℝ) ≤ number := by exact_mod_cast nonneg
    rw [half, abs_of_nonneg nonneg, abs_of_nonneg (by linarith)] at lower
    linarith
  · have negative : (number : ℝ) + 1 ≤ 0 := by exact_mod_cast negative
    rw [half, abs_of_nonpos negative, abs_of_nonpos (by linarith)] at upper
    linarith

theorem unique (first : IsNearest value number) (second : IsNearest value count) :
    number = count :=
  le_antisymm (second.le first) (first.le second)

theorem mono (first : IsNearest value number) (second : IsNearest other count)
    (grows : value ≤ other) : number ≤ count := by
  by_contra less
  have apart : (count : ℝ) + 1 ≤ number := by exact_mod_cast not_le.mp less
  have firstNear := abs_le.mp first.near
  have secondNear := abs_le.mp second.near
  obtain rfl : value = other := by linarith
  exact less (first.unique second).le

end IsNearest

theorem exists_isNearest (value : ℝ) :
    IsNearest value (if value < 0 then -⌊|value| + 1 / 2⌋ else ⌊|value| + 1 / 2⌋) := by
  have nearest : IsNearest |value| ⌊|value| + 1 / 2⌋ := by
    apply IsNearest.of_nonneg (abs_nonneg value)
    · have := Int.lt_floor_add_one (|value| + 1 / 2)
      linarith
    · exact Int.floor_le _
  split
  case isTrue negative =>
    have mirrored := nearest.neg
    rwa [abs_of_neg negative, neg_neg, ← abs_of_neg negative] at mirrored
  case isFalse nonneg =>
    have same : |value| = value := abs_of_nonneg (not_lt.mp nonneg)
    rw [same] at nearest ⊢
    exact nearest

/-! ### Values on the wire -/

theorem real_ofInt (number : ℤ) : (Scalar.ofInt number : ℝ) = number := by
  cases number with
  | ofNat count => rfl
  | negSucc count =>
    change -((count + 1 : ℕ) : ℝ) = _
    rw [Int.cast_negSucc]

theorem real_fromFixed (steps : Int32) : (fromFixed steps : ℝ) = steps.toInt / 1000000 := by
  rw [fromFixed, real_ofInt, real_ofNat]
  norm_num [resolution]

theorem saturated_mono {number count : ℤ} (grows : number ≤ count) :
    saturated number ≤ saturated count :=
  max_le_max le_rfl (min_le_min le_rfl grows)

theorem saturated_of_inside {number : ℤ} (least : -2147483648 ≤ number)
    (most : number ≤ 2147483647) : saturated number = number := by
  rw [saturated, min_eq_right most, max_eq_right least]

theorem toInt_ofInt_saturated (number : ℤ) :
    (Int32.ofInt (saturated number)).toInt = saturated number := by
  apply Int32.toInt_ofInt_of_le <;> unfold saturated <;> omega

/-- The number of steps that are sent. -/
theorem toInt_toFixed {value : ℝ} {number : ℤ} (nearest : IsNearest (value * 1000000) number) :
    (toFixed value).toInt = saturated number := by
  have scaled : value * (Scalar.ofNat resolution : ℝ) = value * 1000000 := by
    rw [real_ofNat]
    norm_num [resolution]
  have rounded := (exists_isNearest (value * 1000000)).unique nearest
  rw [← toInt_ofInt_saturated, toFixed, scaled, ← rounded]
  rfl

/-- A value that came from the wire is sent as it came. -/
theorem toFixed_fromFixed (steps : Int32) : toFixed (fromFixed steps : ℝ) = steps := by
  have whole : (fromFixed steps : ℝ) * 1000000 = steps.toInt := by
    rw [real_fromFixed]
    ring
  have least : -2147483648 ≤ steps.toInt := Int32.le_toInt steps
  have most : steps.toInt < 2147483648 := Int32.toInt_lt steps
  rw [← Int32.toInt_inj, toInt_toFixed (whole ▸ IsNearest.of_whole steps.toInt)]
  exact saturated_of_inside least (by omega)

theorem real_quantized {value : ℝ} {number : ℤ} (nearest : IsNearest (value * 1000000) number) :
    quantized value = saturated number / 1000000 := by
  rw [quantized, real_fromFixed, toInt_toFixed nearest]

theorem quantized_mono : Monotone (quantized : ℝ → ℝ) := by
  intro value other grows
  have first := exists_isNearest (value * 1000000)
  have second := exists_isNearest (other * 1000000)
  have counted : (saturated _ : ℝ) ≤ saturated _ :=
    Int.cast_le.mpr (saturated_mono (first.mono second (by linarith)))
  rw [real_quantized first, real_quantized second]
  linarith

/-- Half a step is all that is lost inside the range of a word. -/
theorem abs_quantized_sub_le {value : ℝ} (inside : |value| ≤ 2147.483647) :
    |quantized value - value| ≤ 0.5 / 1000000 := by
  obtain ⟨number, nearest⟩ : ∃ number, IsNearest (value * 1000000) number :=
    ⟨_, exists_isNearest _⟩
  obtain ⟨least, most⟩ := abs_le.mp inside
  have low : -2147483647 ≤ number :=
    (IsNearest.of_whole (-2147483647)).mono nearest (by push_cast; linarith)
  have high : number ≤ 2147483647 :=
    nearest.mono (IsNearest.of_whole 2147483647) (by push_cast; linarith)
  have near := abs_le.mp nearest.near
  rw [real_quantized nearest, saturated_of_inside (by omega) high, abs_le]
  constructor <;> linarith

/-! ### Doubles -/

section Doubles

open Decimal Decimal.Reading

theorem isNearest_roundScaled (mantissa : ℕ) (exponent : ℤ) :
    IsNearest (magnitude mantissa exponent) (roundScaled .away mantissa exponent 1 : ℕ) := by
  have nonneg : 0 ≤ magnitude mantissa exponent := by
    unfold magnitude
    positivity
  have near := (abs_le.mp (abs_roundScaled_sub_le .away mantissa exponent 1)).2
  have up := lt_roundScaled_away mantissa exponent 1
  have near := Rat.cast_le (K := ℝ) |>.mpr near
  have up := Rat.cast_lt (K := ℝ) |>.mpr up
  push_cast at near up
  apply IsNearest.of_nonneg (by exact_mod_cast nonneg)
  · push_cast
    linarith
  · push_cast
    linarith

/-- The steps of a double are those of the exact value of its product with the resolution. -/
theorem toInt_toFixed_double {value : Float}
    (finite : (value * Scalar.ofNat resolution).isFinite = true) :
    ∃ number, IsNearest (exact (value * Scalar.ofNat resolution)) number ∧
      (toFixed value).toInt = saturated number := by
  obtain ⟨negative, mantissa, exponent, read⟩ := (isFinite_iff _).mp finite
  have nearest := isNearest_roundScaled mantissa exponent
  have sent : (toFixed value).toInt =
      saturated (if negative then -(roundScaled .away mantissa exponent 1 : ℕ)
        else (roundScaled .away mantissa exponent 1 : ℕ)) := by
    rw [← toInt_ofInt_saturated, toFixed]
    change (Int32.ofInt (roundFloatWithin _ _ (value * Scalar.ofNat resolution))).toInt = _
    rw [roundFloatWithin, read]
    rfl
  refine ⟨_, ?_, sent⟩
  rw [exact, read]
  cases negative with
  | false => exact nearest
  | true =>
    have mirrored := nearest.neg
    simpa [Reading.value] using mirrored

end Doubles

end ArmLink.Servo
