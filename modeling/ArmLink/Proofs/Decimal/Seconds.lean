import ArmLink.Proofs.Decimal.Doubles
import ArmLink.Duration

/-!
Spans of time in seconds, as doubles.

The seconds of a span are computed with a division and a sum, and both round.  Rounding a positive
number does not move its leading digit to a lower place, if doubles have that place at all
(`exists_rounded`, `exists_normalized`).  So a sum, a product or a quotient of positive doubles is
positive again unless it is too small for that (`Reaches`), and a nanosecond is not: a span that is not
nothing has more than zero seconds (`zero_lt_toScalar`).
-/

namespace ArmLink.Decimal.Reading

open Float.Model Float.Model.UnpackedFloat

variable {x y : Float} {mantissa other : Nat} {exponent power least : Int} {accuracy : Accuracy}

/-! ### Leading digits -/

theorem log2_mul_two_pow (positive : 0 < mantissa) (shift : Nat) :
    (mantissa * 2 ^ shift).log2 = mantissa.log2 + shift := by
  have divided := Nat.log_div_base_pow 2 (mantissa * 2 ^ shift) shift
  have large : 2 ^ shift ≤ mantissa * 2 ^ shift := Nat.le_mul_of_pos_left _ positive
  have below := (Nat.le_log2 (Nat.mul_pos positive (Nat.two_pow_pos shift)).ne').mpr large
  rw [Nat.mul_div_cancel _ (Nat.two_pow_pos shift)] at divided
  rw [Nat.log2_eq_log_two] at below ⊢
  rw [Nat.log2_eq_log_two]
  omega

theorem log2_div_two_pow (mantissa shift : Nat) :
    (mantissa / 2 ^ shift).log2 = mantissa.log2 - shift := by
  rw [Nat.log2_eq_log_two, Nat.log2_eq_log_two, Nat.log_div_base_pow]

theorem log2_shiftLeft (positive : 0 < mantissa) (shift : Nat) :
    (mantissa <<< shift).log2 = mantissa.log2 + shift := by
  rw [Nat.shiftLeft_eq, log2_mul_two_pow positive]

theorem log2_mono (below : mantissa ≤ other) : mantissa.log2 ≤ other.log2 := by
  rw [Nat.log2_eq_log_two, Nat.log2_eq_log_two]
  exact Nat.log_mono_right below

theorem targetExponent_eq (total : Int) :
    Format.binary64.targetExponent total = max (total - 53) minExponent := rfl

theorem le_log2_quotient {count shift : Nat} (some : 0 < mantissa) (positive : 0 < other)
    (fits : count + other.log2 + 1 ≤ mantissa.log2 + shift) :
    0 < mantissa <<< shift / other ∧ count ≤ (mantissa <<< shift / other).log2 := by
  have enough : 2 ^ count ≤ mantissa <<< shift / other := by
    rw [Nat.le_div_iff_mul_le positive, Nat.shiftLeft_eq]
    calc 2 ^ count * other
        ≤ 2 ^ count * 2 ^ (other.log2 + 1) := Nat.mul_le_mul_left _ Nat.lt_log2_self.le
      _ ≤ 2 ^ mantissa.log2 * 2 ^ shift := by
        rw [← Nat.pow_add, ← Nat.pow_add]
        exact Nat.pow_le_pow_right two_pos fits
      _ ≤ mantissa * 2 ^ shift := Nat.mul_le_mul_right _ (Nat.log2_self_le some.ne')
  have quotient := (Nat.two_pow_pos count).trans_le enough
  exact ⟨quotient, (Nat.le_log2 quotient.ne').mpr enough⟩

/-! ### Rounding -/

theorem shifted_mantissa (mantissa : Nat) (exponent : Int) (accuracy : Accuracy) :
    (shiftToTargetExponent .binary64 mantissa exponent accuracy).1.mantissa =
      mantissa / 2 ^ (Format.binary64.targetExponent (totalExponent mantissa exponent) -
        exponent).toNat := by
  have kept : (ExtendedMantissa.ofMantissaAndAccuracy mantissa accuracy).mantissa = mantissa := by
    cases accuracy with
    | exact => rfl
    | inexact order => cases order <;> rfl
  simp only [shiftToTargetExponent, shiftToExponent, shiftRight_mantissa, kept]

theorem shifted_exponent (mantissa : Nat) (exponent : Int) (accuracy : Accuracy) :
    (shiftToTargetExponent .binary64 mantissa exponent accuracy).2 =
      max exponent (Format.binary64.targetExponent (totalExponent mantissa exponent)) := by
  simp only [shiftToTargetExponent, shiftToExponent]
  omega

theorem le_roundedMantissa (extended : ExtendedMantissa) :
    extended.mantissa ≤ extended.roundedMantissa ∧
      extended.roundedMantissa ≤ extended.mantissa + 1 := by
  rcases extended with ⟨mantissa, round, sticky⟩
  cases round <;> cases sticky <;>
    simp only [ExtendedMantissa.roundedMantissa, ExtendedMantissa.accuracy,
      Accuracy.roundToNearestEven] <;> omega

/-- Digits that have been rounded up to a power of two are cut down to as many as there is room for. -/
theorem carried (positive : 0 < mantissa) (narrow : mantissa ≤ 2 ^ 53)
    (bounded : minExponent ≤ exponent) (full : 2 ^ 52 ≤ mantissa ∨ exponent = minExponent) :
    let shifted := shiftToTargetExponent .binary64 mantissa exponent .exact
    0 < shifted.1.mantissa ∧ Canonical shifted.1.mantissa shifted.2 ∧
      totalExponent shifted.1.mantissa shifted.2 = totalExponent mantissa exponent := by
  intro shifted
  have digits := shifted_mantissa mantissa exponent .exact
  have place := shifted_exponent mantissa exponent .exact
  rw [targetExponent_eq] at digits place
  rcases narrow.lt_or_eq with small | rfl
  · have short : mantissa.log2 < 53 := (Nat.log2_lt positive.ne').mpr small
    have noShift : (max (totalExponent mantissa exponent - 53) minExponent - exponent).toNat = 0 := by
      rw [totalExponent]
      omega
    have samePlace : max exponent (max (totalExponent mantissa exponent - 53) minExponent) =
        exponent := by
      rw [totalExponent]
      omega
    rw [noShift, pow_zero, Nat.div_one] at digits
    rw [samePlace] at place
    rw [digits, place]
    exact ⟨positive, ⟨small, bounded, full⟩, rfl⟩
  · have total : totalExponent (2 ^ 53) exponent = 54 + exponent := by
      rw [totalExponent, Nat.log2_two_pow]
      rfl
    have shift : (max (54 + exponent - 53) minExponent - exponent).toNat = 1 := by omega
    have nextPlace : max exponent (max (54 + exponent - 53) minExponent) = exponent + 1 := by omega
    rw [total, shift] at digits
    rw [total, nextPlace] at place
    rw [digits, place, total]
    refine ⟨by norm_num, ⟨by norm_num, by omega, .inl (by norm_num)⟩, ?_⟩
    change totalExponent (2 ^ 52) (exponent + 1) = _
    rw [totalExponent, Nat.log2_two_pow]
    omega

/-- Rounding keeps what has its leading digit in a place that doubles have. -/
theorem exists_rounded (sign : Sign) (accuracy : Accuracy) (positive : 0 < mantissa)
    (visible : minExponent < totalExponent mantissa exponent)
    (fine : exponent ≤ Format.binary64.targetExponent (totalExponent mantissa exponent)) :
    ∃ digits place, ∃ some : 0 < digits,
      roundWithAccuracy .binary64 sign mantissa exponent accuracy = .finite sign digits place some ∧
        Canonical digits place ∧ totalExponent mantissa exponent ≤ totalExponent digits place := by
  have total : totalExponent mantissa exponent = mantissa.log2 + 1 + exponent := rfl
  have goal := targetExponent_eq (totalExponent mantissa exponent)
  have cut := shifted_mantissa mantissa exponent accuracy
  have place := shifted_exponent mantissa exponent accuracy
  rw [max_eq_right fine] at place
  have rounded : roundWithAccuracy .binary64 sign mantissa exponent accuracy =
      let first := shiftToTargetExponent .binary64 mantissa exponent accuracy
      let second := shiftToTargetExponent .binary64 first.1.roundedMantissa first.2 .exact
      if none : second.1.mantissa = 0 then .zero sign
      else .finite sign second.1.mantissa second.2 (Nat.pos_of_ne_zero none) := rfl
  generalize shiftToTargetExponent .binary64 mantissa exponent accuracy = first at cut place rounded
  generalize Format.binary64.targetExponent (totalExponent mantissa exponent) = target at *
  -- A digit is left, and no more of them than there is room for.
  have length := log2_div_two_pow mantissa (target - exponent).toNat
  have some : 0 < mantissa / 2 ^ (target - exponent).toNat := by
    apply Nat.div_pos _ (Nat.two_pow_pos _)
    exact (Nat.le_log2 positive.ne').mp (by omega)
  rw [← cut] at length some
  have narrow : first.1.mantissa < 2 ^ 53 := (Nat.log2_lt some.ne').mp (by omega)
  obtain ⟨above, below⟩ := le_roundedMantissa first.1
  have roundedPos : 0 < first.1.roundedMantissa := some.trans_le above
  have leading := log2_mono above
  have full : 2 ^ 52 ≤ first.1.roundedMantissa ∨ first.2 = minExponent := by
    rcases max_choice (totalExponent mantissa exponent - 53) minExponent with normal | subnormal
    · have filled : 2 ^ 52 ≤ first.1.mantissa := (Nat.le_log2 some.ne').mp (by omega)
      exact .inl (filled.trans above)
    · exact .inr (by omega)
  obtain ⟨kept, canonical, same⟩ := carried roundedPos (by omega) (by omega) full
  have higher : totalExponent mantissa exponent ≤
      totalExponent first.1.roundedMantissa first.2 := by
    rw [totalExponent, totalExponent]
    omega
  rw [rounded]
  dsimp only
  rw [dif_neg kept.ne']
  exact ⟨_, _, kept, rfl, canonical, higher.trans_eq same.symm⟩

/-- The same for digits that are first extended to as many as there is room for. -/
theorem exists_normalized (positive : 0 < mantissa)
    (visible : minExponent < totalExponent mantissa exponent) :
    ∃ digits place, ∃ some : 0 < digits,
      round .binary64 .positive mantissa exponent = .finite .positive digits place some ∧
        Canonical digits place ∧ totalExponent mantissa exponent ≤ totalExponent digits place := by
  generalize target : Format.binary64.targetExponent (totalExponent mantissa exponent) = goal
  have extended : totalExponent (mantissa <<< (exponent - goal).toNat)
      (exponent - (exponent - goal).toNat) = totalExponent mantissa exponent := by
    rw [totalExponent, totalExponent, log2_shiftLeft positive]
    omega
  have some : 0 < mantissa <<< (exponent - goal).toNat := Nat.shiftLeft_pos_iff.mpr positive
  rw [← extended] at visible target ⊢
  have fine : exponent - (exponent - goal).toNat ≤ Format.binary64.targetExponent (totalExponent
      (mantissa <<< (exponent - goal).toNat) (exponent - (exponent - goal).toNat)) := by
    rw [target]
    omega
  rw [extended] at target
  have rounded : round .binary64 .positive mantissa exponent = roundWithAccuracy .binary64 .positive
      (mantissa <<< (exponent - goal).toNat) (exponent - (exponent - goal).toNat) .exact := by
    rw [← target]
    rfl
  rw [rounded]
  exact exists_rounded .positive .exact some visible fine

/-! ### Packing -/

theorem unpack_infinity (sign : Sign) :
    (Float.Model.pack (.infinity sign)).unpack = .infinity sign := by
  change UnpackedFloat.unpack .binary64 (packedInfinity .binary64 sign) = _
  simp [packedInfinity, UnpackedFloat.unpack, unpackExponent_packComponents,
    unpackMantissa_packComponents, unpackSign_packComponents, Sign.ofBitVec_toBitVec]

/-- The digits of a word, with the leading one that is not written. -/
theorem toNat_leading_append (filled : 2 ^ 52 ≤ mantissa) (narrow : mantissa < 2 ^ 53) :
    (1#1 ++ BitVec.ofNat 52 mantissa).toNat = mantissa := by
  rw [BitVec.toNat_append, ← Nat.shiftLeft_add_eq_or_of_lt (BitVec.isLt _), BitVec.toNat_ofNat]
  change 2 ^ 52 + mantissa % 2 ^ 52 = mantissa
  omega

theorem ofNat_ne_of_toNat {width number : Nat} {word : BitVec width} (small : number < 2 ^ width)
    (apart : number ≠ word.toNat) : BitVec.ofNat width number ≠ word := by
  intro same
  have numbers := congrArg BitVec.toNat same
  rw [BitVec.toNat_ofNat, Nat.mod_eq_of_lt small] at numbers
  exact apart numbers

/-- Canonical digits are found again in the word, if it has room for the exponent. -/
theorem unpack_pack (sign : Sign) (canonical : Canonical mantissa exponent)
    (positive : 0 < mantissa) :
    (Float.Model.pack (.finite sign mantissa exponent positive)).unpack =
        .finite sign mantissa exponent positive ∨
      (Float.Model.pack (.finite sign mantissa exponent positive)).unpack = .infinity sign := by
  obtain ⟨narrow, least, full⟩ := canonical
  have short : mantissa.log2 < 53 := (Nat.log2_lt positive.ne').mpr narrow
  have lowest : minExponent = -1074 := rfl
  have bias : exponent + (Format.binary64.exponentBias : Int) + (52 : Nat) = exponent + 1075 := by
    simp [Format.exponentBias, add_assoc]
  have unpacked (word : BitVec 64)
      (packed : UnpackedFloat.pack .binary64 (.finite sign mantissa exponent positive) = word) :
      (Float.Model.pack (.finite sign mantissa exponent positive)).unpack =
        UnpackedFloat.unpack .binary64 word := by
    rw [← packed]
    rfl
  by_cases huge : 2 ^ 11 ≤ (exponent + 1075).toNat + 1
  · right
    rw [unpacked (packedInfinity .binary64 sign) (by simp only [UnpackedFloat.pack, bias, if_pos huge])]
    exact unpack_infinity sign
  left
  rcases Nat.lt_or_ge mantissa (2 ^ 52) with small | filled
  · have length : mantissa.log2 < 52 := (Nat.log2_lt positive.ne').mpr small
    have subnormal : ¬ mantissa.log2 + 1 = Format.binary64.mantissaBits := by
      change ¬ mantissa.log2 + 1 = 53
      omega
    have digits : (BitVec.ofNat 52 mantissa).toNat = mantissa := by
      rw [BitVec.toNat_ofNat, Nat.mod_eq_of_lt small]
    have some : BitVec.ofNat 52 mantissa ≠ 0#52 := ofNat_ne_of_toNat small positive.ne'
    obtain rfl : exponent = minExponent := full.resolve_left (by omega)
    rw [unpacked (packComponents .binary64 sign 0 (BitVec.ofNat 52 mantissa))
      (by simp only [UnpackedFloat.pack, bias, if_neg huge, if_neg subnormal]; rfl)]
    simp only [UnpackedFloat.unpack, unpackExponent_packComponents, unpackMantissa_packComponents,
      unpackSign_packComponents, Sign.ofBitVec_toBitVec, some, digits]
    rfl
  · have length : 52 ≤ mantissa.log2 := (Nat.le_log2 positive.ne').mpr filled
    have normal : mantissa.log2 + 1 = Format.binary64.mantissaBits := by
      change mantissa.log2 + 1 = 53
      omega
    have digits := toNat_leading_append filled narrow
    have place : (BitVec.ofNat 11 (exponent + 1075).toNat).toNat = (exponent + 1075).toNat := by
      rw [BitVec.toNat_ofNat, Nat.mod_eq_of_lt (by omega)]
    have notOnes : BitVec.ofNat 11 (exponent + 1075).toNat ≠ -1#11 :=
      ofNat_ne_of_toNat (by omega) (by change _ ≠ 2047; omega)
    have notZero : BitVec.ofNat 11 (exponent + 1075).toNat ≠ 0#11 :=
      ofNat_ne_of_toNat (by omega) (by change _ ≠ 0; omega)
    rw [unpacked (packComponents .binary64 sign (BitVec.ofNat 11 (exponent + 1075).toNat)
      (BitVec.ofNat 52 mantissa)) (by simp only [UnpackedFloat.pack, bias, if_neg huge, if_pos normal])]
    simp only [UnpackedFloat.unpack, unpackExponent_packComponents, unpackMantissa_packComponents,
      unpackSign_packComponents, Sign.ofBitVec_toBitVec, notOnes, notZero, if_false, place, digits]
    congr 1
    simp [Format.exponentBias]
    omega

/-! ### Arithmetic -/

/-- A double no smaller than the least number with a leading digit in some place. -/
def Reaches (least : Int) (x : Float) : Prop :=
  x.toModel.unpack = .infinity .positive ∨
    ∃ mantissa exponent, ∃ some : 0 < mantissa,
      x.toModel.unpack = .finite .positive mantissa exponent some ∧
        least ≤ totalExponent mantissa exponent

def IsZero (x : Float) : Prop := x.toModel.unpack = .zero .positive

theorem zero_lt_of_reaches (zero : IsZero y) (reaches : Reaches least x) : y < x := by
  rw [lt_iff, zero]
  rcases reaches with infinite | ⟨mantissa, exponent, some, finite, -⟩
  · rw [infinite]
    rfl
  · rw [finite]
    rfl

theorem reaches_of_infinity (packed : x.toModel = Float.Model.pack (.infinity .positive)) :
    Reaches least x := by
  left
  rw [packed, unpack_infinity]

theorem reaches_of_canonical {positive : 0 < mantissa}
    (packed : x.toModel = Float.Model.pack (.finite .positive mantissa exponent positive))
    (canonical : Canonical mantissa exponent) (large : least ≤ totalExponent mantissa exponent) :
    Reaches least x := by
  rw [Reaches, packed]
  rcases unpack_pack .positive canonical positive with same | huge
  · exact .inr ⟨mantissa, exponent, positive, same, large⟩
  · exact .inl huge

theorem reaches_of_rounded (positive : 0 < mantissa)
    (visible : minExponent < totalExponent mantissa exponent)
    (fine : exponent ≤ Format.binary64.targetExponent (totalExponent mantissa exponent))
    (rounded : x.toModel =
      Float.Model.pack (roundWithAccuracy .binary64 .positive mantissa exponent accuracy)) :
    Reaches (totalExponent mantissa exponent) x := by
  obtain ⟨digits, place, some, same, canonical, large⟩ :=
    exists_rounded .positive accuracy positive visible fine
  rw [same] at rounded
  exact reaches_of_canonical rounded canonical large

theorem reaches_of_normalized (positive : 0 < mantissa)
    (visible : minExponent < totalExponent mantissa exponent)
    (rounded : x.toModel =
      Float.Model.pack (normalize .binary64 mantissa exponent .positive)) :
    Reaches (totalExponent mantissa exponent) x := by
  obtain ⟨digits, place, some, same, canonical, large⟩ := exists_normalized positive visible
  have onwards : normalize .binary64 mantissa exponent .positive =
      round .binary64 .positive mantissa exponent := by
    rw [UnpackedFloat.normalize, Int.compare_eq_gt.mpr (by omega)]
    rfl
  rw [onwards, same] at rounded
  exact reaches_of_canonical rounded canonical large

theorem Reaches.mono {lower : Int} (reaches : Reaches least x) (below : lower ≤ least) :
    Reaches lower x := by
  rcases reaches with infinite | ⟨mantissa, exponent, some, finite, large⟩
  · exact .inl infinite
  · exact .inr ⟨mantissa, exponent, some, finite, below.trans large⟩

theorem reaches_mul_one (one : y.toModel.unpack = .finite .positive (2 ^ 52) (-52) (by decide))
    (visible : minExponent < least) (reaches : Reaches least x) : Reaches least (x * y) := by
  have product : (x * y).toModel = Float.Model.pack
      (UnpackedFloat.mul .binary64 x.toModel.unpack y.toModel.unpack) := rfl
  rw [one] at product
  rcases reaches with infinite | ⟨mantissa, exponent, some, finite, large⟩
  · rw [infinite] at product
    exact reaches_of_infinity product
  · rw [finite] at product
    have total : totalExponent (mantissa * 2 ^ 52) (exponent + -52) =
        totalExponent mantissa exponent := by
      rw [totalExponent, totalExponent, log2_mul_two_pow some]
      omega
    have fine : exponent + -52 ≤ Format.binary64.targetExponent (totalExponent (mantissa * 2 ^ 52)
        (exponent + -52)) := by
      rw [total, targetExponent_eq, totalExponent]
      omega
    have rounded := reaches_of_rounded (Nat.mul_pos some (by decide)) (by omega) fine product
    exact rounded.mono (by omega)

theorem reaches_div {positive : 0 < other}
    (divisor : y.toModel.unpack = .finite .positive other power positive)
    (visible : minExponent < least - totalExponent other power) (reaches : Reaches least x) :
    Reaches (least - totalExponent other power) (x / y) := by
  have quotient : (x / y).toModel = Float.Model.pack
      (UnpackedFloat.div .binary64 x.toModel.unpack y.toModel.unpack) := rfl
  rw [divisor] at quotient
  rcases reaches with infinite | ⟨mantissa, exponent, some, finite, large⟩
  · rw [infinite] at quotient
    exact reaches_of_infinity quotient
  · rw [finite] at quotient
    have divided : UnpackedFloat.div .binary64 (.finite .positive mantissa exponent some)
        (.finite .positive other power positive) =
          let place := min (exponent - power) (Format.binary64.targetExponent
            (totalExponent mantissa exponent - totalExponent other power))
          let digits := mantissa <<< (exponent - power - place).toNat
          roundWithAccuracy .binary64 .positive (digits / other) place
            (accuracyOfFraction (digits % other) other) := rfl
    rw [divided, targetExponent_eq] at quotient
    simp only [totalExponent] at quotient large visible ⊢
    generalize placed : min (exponent - power) (max (mantissa.log2 + 1 + exponent -
      (other.log2 + 1 + power) - 53) minExponent) = place at quotient
    generalize shifted : (exponent - power - place).toNat = shift at quotient
    -- The quotient has as many digits as the place for it leaves of the difference of the two.
    obtain ⟨count, counted⟩ : ∃ count : Nat,
        (count : Int) = mantissa.log2 + exponent - (other.log2 + power) - 1 - place :=
      ⟨_, Int.toNat_of_nonneg (by omega)⟩
    obtain ⟨digits, enough⟩ : 0 < mantissa <<< shift / other ∧
        count ≤ (mantissa <<< shift / other).log2 := le_log2_quotient some positive (by omega)
    have rounded := reaches_of_rounded digits (by rw [totalExponent]; omega)
      (by rw [targetExponent_eq, totalExponent]; omega) quotient
    exact rounded.mono (by rw [totalExponent]; omega)

/-- What is added to nothing is packed again as it was. -/
theorem reaches_of_unpacked (reaches : Reaches least x)
    (packed : y.toModel = Float.Model.pack x.toModel.unpack) : Reaches least y := by
  rcases reaches with infinite | ⟨mantissa, exponent, some, finite, large⟩
  · rw [infinite] at packed
    exact reaches_of_infinity packed
  · have canonical := canonical_of_unpack finite
    rw [finite] at packed
    exact reaches_of_canonical packed canonical large

/-- Adding nothing, on either side, leaves the parts of a positive double as they are. -/
theorem add_zero_parts (reaches : Reaches least x) (zero : IsZero y) :
    UnpackedFloat.add .binary64 x.toModel.unpack y.toModel.unpack = x.toModel.unpack ∧
      UnpackedFloat.add .binary64 y.toModel.unpack x.toModel.unpack = x.toModel.unpack := by
  rw [zero]
  rcases reaches with infinite | ⟨mantissa, exponent, some, finite, -⟩
  · rw [infinite]
    exact ⟨rfl, rfl⟩
  · rw [finite]
    exact ⟨rfl, rfl⟩

theorem reaches_add_zero (reaches : Reaches least x) (zero : IsZero y) : Reaches least (x + y) :=
  reaches_of_unpacked reaches (congrArg Float.Model.pack (add_zero_parts reaches zero).1)

theorem reaches_zero_add (zero : IsZero x) (reaches : Reaches least y) : Reaches least (x + y) :=
  reaches_of_unpacked reaches (congrArg Float.Model.pack (add_zero_parts reaches zero).2)

theorem reaches_add {lower : Int} (visible : minExponent < least) (reaches : Reaches least x)
    (reachesToo : Reaches lower y) : Reaches least (x + y) := by
  have sum : (x + y).toModel = Float.Model.pack
      (UnpackedFloat.add .binary64 x.toModel.unpack y.toModel.unpack) := rfl
  rcases reaches with infinite | ⟨mantissa, exponent, some, finite, large⟩
  · rw [infinite] at sum
    rcases reachesToo with infiniteToo | ⟨other, power, someToo, finiteToo, -⟩
    · rw [infiniteToo] at sum
      exact reaches_of_infinity sum
    · rw [finiteToo] at sum
      exact reaches_of_infinity sum
  · rw [finite] at sum
    rcases reachesToo with infiniteToo | ⟨other, power, someToo, finiteToo, -⟩
    · rw [infiniteToo] at sum
      exact reaches_of_infinity sum
    · rw [finiteToo] at sum
      have added : UnpackedFloat.add .binary64 (.finite .positive mantissa exponent some)
          (.finite .positive other power someToo) =
            UnpackedFloat.normalize .binary64
              ((mantissa <<< (exponent - min exponent power).toNat +
                other <<< (power - min exponent power).toNat : Nat) : Int)
              (min exponent power) .positive := rfl
      rw [added] at sum
      generalize shifted : (exponent - min exponent power).toNat = shift at sum
      have own : 0 < mantissa <<< shift := Nat.shiftLeft_pos_iff.mpr some
      have bigger : (mantissa <<< shift).log2 ≤
          (mantissa <<< shift + other <<< (power - min exponent power).toNat).log2 :=
        log2_mono (Nat.le_add_right _ _)
      rw [log2_shiftLeft some] at bigger
      rw [totalExponent] at large
      have rounded := reaches_of_normalized (Nat.add_pos_left own _)
        (by rw [totalExponent]; omega) sum
      exact rounded.mono (by rw [totalExponent]; omega)

/-! ### Whole numbers -/

theorem reaches_ofNat {count : Nat} (some : 0 < count) : Reaches 1 (Float.ofNat count) := by
  have total : 1 ≤ totalExponent count 0 := by
    rw [totalExponent]
    omega
  have least : minExponent = -1074 := rfl
  by_cases small : count < 2 ^ 53
  · -- Few digits are taken over one by one, and multiplied with one.
    have taken : Reaches (totalExponent count 0) count.toUInt64.toFloat := by
      have same : count.toUInt64.toNat = count := Nat.mod_eq_of_lt (by omega)
      apply reaches_of_normalized some (by omega)
      change Float.Model.pack (UnpackedFloat.normalize .binary64 count.toUInt64.toNat 0 .positive) = _
      rw [same]
    have product : Float.ofNat count =
        count.toUInt64.toFloat * Float.exactlyRepresentablePowersOfTen[0] :=
      dif_pos ⟨small, by decide⟩
    rw [product]
    exact (reaches_mul_one rfl (by omega) taken).mono total
  · have scientific : Float.ofNat count = .ofModel (.ofScientific count 0) :=
      dif_neg fun both => small both.1
    have written : UnpackedFloat.ofScientific .binary64 count 0 =
        roundWithAccuracy .binary64 .positive (count <<< 53 * 1) (-53) .exact := by
      have notTiny : ¬ (0 : Int) < -(2 ^ Format.binary64.exponentBits + count.log2) :=
        not_lt.mpr (neg_nonpos.mpr (by positivity))
      rw [UnpackedFloat.ofScientific, dif_neg some.ne', if_neg (by decide), if_neg notTiny,
        if_pos le_rfl]
      rfl
    have same : totalExponent (count <<< 53 * 1) (-53) = totalExponent count 0 := by
      rw [totalExponent, totalExponent, Nat.mul_one, log2_shiftLeft some]
      omega
    rw [scientific]
    have rounded := reaches_of_rounded (Nat.mul_pos (Nat.shiftLeft_pos_iff.mpr some) one_pos)
      (by omega) (by rw [targetExponent_eq, same, totalExponent]; omega)
      (congrArg Float.Model.pack written)
    exact rounded.mono (total.trans_eq same.symm)

end ArmLink.Decimal.Reading

namespace ArmLink.Duration

open Decimal.Reading

theorem toScalar_zero : (Duration.zero.toScalar : Float) = Scalar.zero := rfl

/-- A span that is not nothing has more than zero seconds. -/
theorem zero_lt_toScalar {span : Duration} (lasts : 0 < span.nanos) :
    (Scalar.zero : Float) < span.toScalar := by
  have second : (Float.ofNat nanosPerSecond).toModel.unpack =
      .finite .positive (nanosPerSecond <<< 23) (-23) (by decide) := rfl
  have fraction (some : 0 < span.subsecond) :
      Reaches (-29) (Float.ofNat span.subsecond / Float.ofNat nanosPerSecond) :=
    reaches_div second (by decide) (reaches_ofNat some)
  have zero : IsZero (Scalar.zero : Float) := rfl
  have split : span.seconds * nanosPerSecond + span.subsecond = span.nanos :=
    Nat.div_add_mod' _ _
  change _ < Float.ofNat span.seconds + Float.ofNat span.subsecond / Float.ofNat nanosPerSecond
  rcases Nat.eq_zero_or_pos span.seconds with noSeconds | seconds
  · rcases Nat.eq_zero_or_pos span.subsecond with noFraction | some
    · rw [noSeconds, noFraction, Nat.zero_mul] at split
      omega
    · rw [noSeconds]
      exact zero_lt_of_reaches zero (reaches_zero_add rfl (fraction some))
  · rcases Nat.eq_zero_or_pos span.subsecond with noFraction | some
    · rw [noFraction]
      exact zero_lt_of_reaches zero (reaches_add_zero (reaches_ofNat seconds) rfl)
    · exact zero_lt_of_reaches zero (reaches_add (by decide) (reaches_ofNat seconds) (fraction some))

end ArmLink.Duration
