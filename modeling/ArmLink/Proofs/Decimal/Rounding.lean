import ArmLink.Duration
import ArmLink.Proofs.Decimal.Doubles

/-!
Rounding, and the spans of time that come of it.

A whole number rounded from an exact value is at most a half away from it.  A span is so many whole
nanoseconds, so a time above zero can still come to nothing: exactly the times up to half a
nanosecond do.  At the other end rounding does not matter, because doubles of that size are whole
numbers of seconds: a time has a span if it is below the limit.  Both ends are in
`ofSecondsOrZero_of_isPositive`.
-/

namespace ArmLink

namespace Decimal

open Reading (magnitude Canonical)

variable {tie : Tie} {mantissa factor numerator denominator : Nat} {exponent : Int}

theorem roundDiv_cases (tie : Tie) (numerator denominator : Nat) :
    roundDiv tie numerator denominator = numerator / denominator ∧
        2 * (numerator % denominator) ≤ denominator ∨
      roundDiv tie numerator denominator = numerator / denominator + 1 ∧
        denominator ≤ 2 * (numerator % denominator) := by
  unfold roundDiv
  dsimp only
  split_ifs with below above
  · exact .inl ⟨rfl, below.le⟩
  · exact .inr ⟨rfl, above.le⟩
  · cases tie with
    | away => exact .inr ⟨rfl, by omega⟩
    | even =>
      dsimp only
      omega

/-- The nearest whole number is at most a half away. -/
theorem abs_roundDiv_sub_le (positive : 0 < denominator) :
    |(roundDiv tie numerator denominator : ℚ) - numerator / denominator| ≤ 1 / 2 := by
  have positive : (0 : ℚ) < denominator := by exact_mod_cast positive
  have split : (numerator : ℚ) / denominator =
      (numerator / denominator : Nat) + (numerator % denominator : Nat) / denominator := by
    field_simp
    exact_mod_cast (Nat.div_add_mod numerator denominator).symm
  have part : (0 : ℚ) ≤ (numerator % denominator : Nat) / denominator :=
    div_nonneg (Nat.cast_nonneg _) positive.le
  have whole : ((numerator % denominator : Nat) : ℚ) / denominator ≤ 1 := by
    rw [div_le_one positive]
    exact_mod_cast (Nat.mod_lt _ (by exact_mod_cast positive)).le
  rw [split, abs_le]
  rcases roundDiv_cases tie numerator denominator with ⟨same, low⟩ | ⟨same, high⟩
  · have low : ((numerator % denominator : Nat) : ℚ) / denominator ≤ 1 / 2 := by
      rw [div_le_div_iff₀ positive two_pos, mul_comm, one_mul]
      exact_mod_cast low
    rw [same]
    constructor <;> linarith
  · have high : (1 : ℚ) / 2 ≤ (numerator % denominator : Nat) / denominator := by
      rw [div_le_div_iff₀ two_pos positive, one_mul, mul_comm]
      exact_mod_cast high
    rw [same]
    push_cast
    constructor <;> linarith

/-- A half goes up. -/
theorem lt_roundDiv_away (positive : 0 < denominator) :
    (numerator : ℚ) / denominator - 1 / 2 < roundDiv .away numerator denominator := by
  have less : 2 * numerator < denominator * (2 * roundDiv .away numerator denominator + 1) := by
    have split := Nat.div_add_mod numerator denominator
    have small := Nat.mod_lt numerator positive
    unfold roundDiv
    dsimp only
    split_ifs <;> linarith
  have less :
      (2 * numerator : ℚ) < denominator * (2 * roundDiv .away numerator denominator + 1) := by
    exact_mod_cast less
  have positive : (0 : ℚ) < denominator := by exact_mod_cast positive
  rw [sub_lt_iff_lt_add, div_lt_iff₀ positive]
  linarith

theorem magnitude_ofNat (mantissa shift : Nat) :
    magnitude mantissa (Int.ofNat shift) = (mantissa <<< shift : Nat) := by
  simp [magnitude, Nat.shiftLeft_eq]

theorem magnitude_negSucc (mantissa shift : Nat) :
    magnitude mantissa (Int.negSucc shift) = mantissa / (1 <<< (shift + 1) : Nat) := by
  rw [magnitude, Int.negSucc_eq, zpow_neg]
  norm_cast
  simp [Nat.shiftLeft_eq, div_eq_mul_inv]

theorem abs_roundScaled_sub_le (tie : Tie) (mantissa : Nat) (exponent : Int) (factor : Nat) :
    |(roundScaled tie mantissa exponent factor : ℚ) - magnitude mantissa exponent * factor| ≤
      1 / 2 := by
  cases exponent with
  | ofNat shift =>
    rw [magnitude_ofNat]
    simp [roundScaled]
  | negSucc shift =>
    have positive : 0 < 1 <<< (shift + 1) := by simp [Nat.shiftLeft_eq]
    have near : |(roundDiv tie (mantissa * factor) (1 <<< (shift + 1)) : ℚ) -
        (mantissa * factor : Nat) / (1 <<< (shift + 1) : Nat)| ≤ 1 / 2 :=
      abs_roundDiv_sub_le positive
    rw [magnitude_negSucc, div_mul_eq_mul_div]
    exact_mod_cast near

theorem lt_roundScaled_away (mantissa : Nat) (exponent : Int) (factor : Nat) :
    magnitude mantissa exponent * factor - 1 / 2 < roundScaled .away mantissa exponent factor := by
  cases exponent with
  | ofNat shift =>
    rw [magnitude_ofNat]
    simp [roundScaled]
  | negSucc shift =>
    have positive : 0 < 1 <<< (shift + 1) := by simp [Nat.shiftLeft_eq]
    have above : ((mantissa * factor : Nat) : ℚ) / (1 <<< (shift + 1) : Nat) - 1 / 2 <
        roundDiv .away (mantissa * factor) (1 <<< (shift + 1)) :=
      lt_roundDiv_away positive
    rw [magnitude_negSucc, div_mul_eq_mul_div]
    exact_mod_cast above

/-- A half rounds to nothing, the even one of its neighbours. -/
theorem roundScaled_even_of_half (half : magnitude mantissa exponent * factor = 1 / 2) :
    roundScaled .even mantissa exponent factor = 0 := by
  cases exponent with
  | ofNat shift =>
    rw [magnitude_ofNat, eq_div_iff two_ne_zero] at half
    have half : mantissa <<< shift * factor * 2 = 1 := by exact_mod_cast half
    omega
  | negSucc shift =>
    have positive : 0 < 1 <<< (shift + 1) := by simp [Nat.shiftLeft_eq]
    rw [magnitude_negSucc, div_mul_eq_mul_div, div_eq_div_iff (by positivity) two_ne_zero] at half
    have half : mantissa * factor * 2 = 1 * 1 <<< (shift + 1) := by exact_mod_cast half
    have nothing : mantissa * factor / 1 <<< (shift + 1) = 0 := Nat.div_eq_of_lt (by omega)
    have rest : mantissa * factor % 1 <<< (shift + 1) = mantissa * factor :=
      Nat.mod_eq_of_lt (by omega)
    simp only [roundScaled, roundDiv, nothing, rest]
    rw [if_neg (by omega), if_neg (by omega)]

/-- What comes to more than nothing is more than a half. -/
theorem roundScaled_even_pos_iff :
    0 < roundScaled .even mantissa exponent factor ↔
      1 / 2 < magnitude mantissa exponent * factor := by
  have near := abs_le.mp (abs_roundScaled_sub_le .even mantissa exponent factor)
  constructor
  · intro some
    have one : (1 : ℚ) ≤ roundScaled .even mantissa exponent factor := by exact_mod_cast some
    apply lt_of_le_of_ne (by linarith)
    intro half
    have := roundScaled_even_of_half half.symm
    omega
  · intro more
    have some : (0 : ℚ) < roundScaled .even mantissa exponent factor := by linarith
    exact_mod_cast some

/-- Below a limit that leaves no room for fractions a double is below it by one. -/
theorem magnitude_lt_iff (canonical : Canonical mantissa exponent) {limit : Nat}
    (large : 2 ^ 53 < limit) :
    magnitude mantissa exponent < limit ↔ magnitude mantissa exponent + 1 ≤ limit := by
  constructor
  · intro below
    cases exponent with
    | ofNat shift =>
      rw [magnitude_ofNat] at below ⊢
      exact_mod_cast below
    | negSucc shift =>
      have small : magnitude mantissa (Int.negSucc shift) ≤ mantissa := by
        rw [magnitude_negSucc]
        apply div_le_self (Nat.cast_nonneg _)
        simp [Nat.shiftLeft_eq, one_le_pow₀]
      have narrow : (mantissa : ℚ) + 1 ≤ limit := by
        have := canonical.mantissa_lt
        exact_mod_cast (show mantissa + 1 ≤ limit by omega)
      linarith
  · intro below
    linarith

end Decimal

/-! ### Times -/

open Decimal (Reading)
open Decimal.Reading (Canonical exact magnitude)

variable {x : Float}

theorem Scalar.isPositive_iff :
    Scalar.isPositive x = true ↔
      ∃ mantissa exponent, 0 < mantissa ∧ Reading.ofFloat x = .finite false mantissa exponent := by
  have zero : (Scalar.zero : Float).toModel.unpack = .zero .positive := rfl
  rw [Scalar.isPositive, Bool.and_eq_true]
  change x.isFinite = true ∧ decide (Scalar.zero < x) = true ↔ _
  rw [decide_eq_true_iff, Reading.isFinite_iff, Reading.lt_iff_of_zero_left zero]
  constructor
  · rintro ⟨⟨negative, mantissa, exponent, finite⟩, infinite | positive⟩
    · simp [finite] at infinite
    · exact positive
  · intro positive
    obtain ⟨mantissa, exponent, -, finite⟩ := id positive
    exact ⟨⟨false, mantissa, exponent, finite⟩, .inr positive⟩

theorem Scalar.isNonNegative_iff :
    Scalar.isNonNegative x = true ↔
      ∃ negative mantissa exponent, (negative = true → mantissa = 0) ∧
        Reading.ofFloat x = .finite negative mantissa exponent := by
  have zero : (Scalar.zero : Float).toModel.unpack = .zero .positive := rfl
  rw [Scalar.isNonNegative, Bool.and_eq_true, Bool.not_eq_true']
  change x.isFinite = true ∧ decide (x < Scalar.zero) = false ↔ _
  rw [decide_eq_false_iff_not, Reading.isFinite_iff, Reading.lt_iff_of_zero_right zero]
  constructor
  · rintro ⟨⟨negative, mantissa, exponent, finite⟩, notBelow⟩
    refine ⟨negative, mantissa, exponent, ?_, finite⟩
    rintro rfl
    by_contra some
    exact notBelow (.inr ⟨mantissa, exponent, Nat.pos_of_ne_zero some, finite⟩)
  · rintro ⟨negative, mantissa, exponent, nothing, finite⟩
    refine ⟨⟨negative, mantissa, exponent, finite⟩, ?_⟩
    rintro (infinite | ⟨_, _, some, below⟩)
    · simp [finite] at infinite
    · rw [finite] at below
      cases below
      exact some.ne' (nothing rfl)

namespace Duration

/-- A time fits if its whole seconds do; rounding does not carry it over the limit. -/
theorem roundScaled_lt_iff {mantissa : Nat} {exponent : Int}
    (canonical : Canonical mantissa exponent) :
    Decimal.roundScaled .even mantissa exponent nanosPerSecond < secondsLimit * nanosPerSecond ↔
      magnitude mantissa exponent < secondsLimit := by
  have near := abs_le.mp
    (Decimal.abs_roundScaled_sub_le .even mantissa exponent nanosPerSecond)
  generalize Decimal.roundScaled .even mantissa exponent nanosPerSecond = nanos at near ⊢
  push_cast [nanosPerSecond] at near
  constructor
  · intro below
    have below : (nanos : ℚ) + 1 ≤ secondsLimit * 1000000000 := by exact_mod_cast below
    linarith
  · intro below
    have below := (Decimal.magnitude_lt_iff canonical (by decide)).mp below
    have inside : (nanos : ℚ) < secondsLimit * 1000000000 := by linarith
    exact_mod_cast inside

theorem ofSeconds_of_finite {negative : Bool} {mantissa : Nat} {exponent : Int}
    (finite : Reading.ofFloat x = .finite negative mantissa exponent)
    (above : negative = true → mantissa = 0) :
    ofSeconds x =
      if magnitude mantissa exponent < secondsLimit then
        .ok ⟨Decimal.roundScaled .even mantissa exponent nanosPerSecond⟩
      else .error .unrepresentable := by
  have sign : ¬ (negative && mantissa != 0) = true := by simpa using above
  have canonical := Reading.canonical_of_ofFloat finite
  simp only [ofSeconds, finite, if_neg sign, roundScaled_lt_iff canonical]

/-- What becomes of a positive time. -/
theorem ofSecondsOrZero_of_isPositive (positive : Scalar.isPositive x = true) :
    (exact x < secondsLimit ∧ ∃ span, ofSecondsOrZero x = .ok span ∧
        (zero < span ↔ 1 / 2 < exact x * nanosPerSecond)) ∨
      (secondsLimit ≤ exact x ∧ ofSecondsOrZero x = .error .unrepresentable) := by
  obtain ⟨mantissa, exponent, some, finite⟩ := Scalar.isPositive_iff.mp positive
  have above : (0.0 : Float) < x :=
    (Reading.lt_iff_of_zero_left rfl).mpr (.inr ⟨mantissa, exponent, some, finite⟩)
  have value : exact x = magnitude mantissa exponent := by rw [exact, finite, Reading.value]
  have notNegative : false = true → mantissa = 0 := by
    intro same
    cases same
  rw [ofSecondsOrZero, if_pos above, ofSeconds_of_finite finite notNegative, value]
  by_cases fits : magnitude mantissa exponent < secondsLimit
  · rw [if_pos fits]
    exact .inl ⟨fits, _, rfl, Decimal.roundScaled_even_pos_iff⟩
  · rw [if_neg fits]
    exact .inr ⟨not_lt.mp fits, rfl⟩

theorem ofSecondsOrZero_of_isNonNegative (nonNegative : Scalar.isNonNegative x = true) :
    (exact x < secondsLimit ∧ ∃ span, ofSecondsOrZero x = .ok span) ∨
      (secondsLimit ≤ exact x ∧ ofSecondsOrZero x = .error .unrepresentable) := by
  by_cases positive : Scalar.isPositive x = true
  · obtain ⟨fits, span, made, -⟩ | beyond := ofSecondsOrZero_of_isPositive positive
    · exact .inl ⟨fits, span, made⟩
    · exact .inr beyond
  · -- What is neither positive nor negative is one of the two zeros.
    obtain ⟨negative, mantissa, exponent, nothing, finite⟩ :=
      Scalar.isNonNegative_iff.mp nonNegative
    have empty : mantissa = 0 := by
      cases negative with
      | true => exact nothing rfl
      | false =>
        by_contra some
        exact positive (Scalar.isPositive_iff.mpr ⟨_, _, Nat.pos_of_ne_zero some, finite⟩)
    have notAbove : ¬ (0.0 : Float) < x := by
      rw [Reading.lt_iff_of_zero_left rfl, finite, empty]
      simp
    have value : exact x = 0 := by
      rw [exact, finite, empty]
      cases negative <;> simp [Reading.value, magnitude]
    rw [ofSecondsOrZero, if_neg notAbove, value]
    exact .inl ⟨by norm_num [secondsLimit, UInt64.size], zero, rfl⟩

theorem exists_wait_iff (positive : Scalar.isPositive x = true) :
    (∃ span, ofSecondsOrZero x = .ok span ∧ zero < span) ↔
      1 / 2 < exact x * nanosPerSecond ∧ exact x < secondsLimit := by
  obtain ⟨fits, span, made, long⟩ | ⟨beyond, failed⟩ := ofSecondsOrZero_of_isPositive positive
  · simp [made, long, fits]
  · simp [failed, beyond]

theorem exists_pause_iff (nonNegative : Scalar.isNonNegative x = true) :
    (∃ span, ofSecondsOrZero x = .ok span) ↔ exact x < secondsLimit := by
  obtain ⟨fits, span, made⟩ | ⟨beyond, failed⟩ := ofSecondsOrZero_of_isNonNegative nonNegative
  · simp [made, fits]
  · simp [failed, beyond]

end Duration

end ArmLink
