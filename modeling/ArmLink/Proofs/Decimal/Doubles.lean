import ArmLink.Decimal.Reading
import Mathlib

/-!
The numbers that doubles stand for.

A double is taken apart in two ways: by `Reading.ofFloat` into a sign, a whole number and a power of
two, and by the comparisons and conversions of doubles themselves.  `ofFloat_eq` says that both come
to the same.  So what a comparison with a constant decides, and what is left of a double that is cut
down to a byte, can be told from the exact value: `IsWhole.le_iff` and `le_toUInt8_iff`.
-/

namespace ArmLink.Decimal

open Float.Model Float.Model.UnpackedFloat

namespace Reading

/-! ### Two ways to take a double apart -/

def isNegative : Sign → Bool
  | .negative => true
  | .positive => false

def ofUnpacked : UnpackedFloat → Reading
  | .notANumber => .nan
  | .infinity sign => .infinite (isNegative sign)
  | .zero sign => .finite (isNegative sign) 0 minExponent
  | .finite sign mantissa exponent _ => .finite (isNegative sign) mantissa exponent

section Words

variable (word : BitVec 64)

theorem toNat_unpackMantissa :
    (@unpackMantissa Format.binary64 word).toNat = word.toNat % 1 <<< 52 := by
  simp [unpackMantissa]

theorem toNat_unpackExponent :
    (@unpackExponent Format.binary64 word).toNat = word.toNat >>> 52 % 0x800 := by
  simp [unpackExponent]

theorem isNegative_unpackSign :
    isNegative (Sign.ofBitVec (@unpackSign Format.binary64 word)) =
      decide (1 <<< 63 ≤ word.toNat) := by
  have small := word.isLt
  have bit : (@unpackSign Format.binary64 word).toNat = word.toNat / 2 ^ 63 := by
    simp [unpackSign, Nat.shiftRight_eq_div_pow]
    omega
  have positive : @unpackSign Format.binary64 word = 0#1 ↔ ¬ 1 <<< 63 ≤ word.toNat := by
    rw [← BitVec.toNat_inj, bit]
    change _ = 0 ↔ _
    omega
  simp only [Sign.ofBitVec, positive]
  split <;> simp_all [isNegative]

theorem ofBits_toNat :
    ofBits word.toNat = ofUnpacked (UnpackedFloat.unpack Format.binary64 word) := by
  have fraction := toNat_unpackMantissa word
  have exponent := toNat_unpackExponent word
  have ones : @unpackExponent Format.binary64 word = -1#_ ↔
      word.toNat >>> 52 % 0x800 = 0x7FF := by
    rw [← exponent, ← BitVec.toNat_inj]
    rfl
  have none : @unpackExponent Format.binary64 word = 0#_ ↔
      word.toNat >>> 52 % 0x800 = 0 := by
    rw [← exponent, ← BitVec.toNat_inj]
    rfl
  have zero : @unpackMantissa Format.binary64 word = 0#_ ↔
      word.toNat % 1 <<< 52 = 0 := by
    rw [← fraction, ← BitVec.toNat_inj]
    rfl
  simp only [UnpackedFloat.unpack, ofBits, ones, none, zero, ← isNegative_unpackSign]
  split_ifs with special infinite subnormal nothing
  · rfl
  · rfl
  · rw [nothing]
    rfl
  · rw [ofUnpacked, fraction, exponent, subnormal]
    rfl
  · -- The leading one of a normal number is not written.
    have leading : (1#1 ++ @unpackMantissa Format.binary64 word).toNat =
        word.toNat % 1 <<< 52 + 1 <<< 52 := by
      rw [BitVec.toNat_append, ← Nat.shiftLeft_add_eq_or_of_lt (BitVec.isLt _), fraction]
      exact Nat.add_comm _ _
    rw [ofUnpacked, leading, exponent]
    simp [minExponent, Format.exponentBias]
    omega

end Words

theorem ofFloat_eq (x : Float) : ofFloat x = ofUnpacked x.toModel.unpack := by
  rw [ofFloat, Float.toBits, ← UInt64.toNat_toBitVec, ofBits_toNat]
  rfl

/-! ### Exact values -/

def magnitude (mantissa : Nat) (exponent : Int) : ℚ := mantissa * 2 ^ exponent

/-- The number that a double stands for; what stands for none counts as zero. -/
def value : Reading → ℚ
  | .finite true mantissa exponent => -magnitude mantissa exponent
  | .finite false mantissa exponent => magnitude mantissa exponent
  | _ => 0

def exact (x : Float) : ℚ := (ofFloat x).value

/-- How doubles are written: with as many digits as there is room for, unless they are very
small. -/
structure Canonical (mantissa : Nat) (exponent : Int) : Prop where
  mantissa_lt : mantissa < 2 ^ 53
  least : minExponent ≤ exponent
  full : 2 ^ 52 ≤ mantissa ∨ exponent = minExponent

variable {x y : Float} {negative : Bool} {mantissa other count : Nat} {exponent power : Int}

theorem canonical_of_ofBits {bits : Nat} (read : ofBits bits = .finite negative mantissa exponent) :
    Canonical mantissa exponent := by
  have base : 1 <<< 52 = 2 ^ 52 := rfl
  simp only [ofBits, base] at read
  split_ifs at read <;> cases read <;> constructor <;> omega

theorem canonical_of_ofFloat (read : ofFloat x = .finite negative mantissa exponent) :
    Canonical mantissa exponent :=
  canonical_of_ofBits read

theorem canonical_of_unpack {sign : Sign} {positive : 0 < mantissa}
    (unpacked : x.toModel.unpack = .finite sign mantissa exponent positive) :
    Canonical mantissa exponent := by
  apply canonical_of_ofFloat (x := x)
  rw [ofFloat_eq, unpacked]
  rfl

theorem magnitude_pos (positive : 0 < mantissa) : 0 < magnitude mantissa exponent := by
  unfold magnitude
  positivity

/-- A larger exponent outweighs the digits. -/
theorem magnitude_lt_of_lt (narrow : mantissa < 2 ^ 53) (full : 2 ^ 52 ≤ other)
    (lower : exponent < power) : magnitude mantissa exponent < magnitude other power := by
  have narrow : (mantissa : ℚ) < 2 ^ 53 := by exact_mod_cast narrow
  have full : (2 : ℚ) ^ 52 ≤ other := by exact_mod_cast full
  calc (mantissa : ℚ) * 2 ^ exponent
      < 2 ^ 53 * 2 ^ exponent := by gcongr
    _ = 2 ^ 52 * 2 ^ (exponent + 1) := by
        rw [zpow_add_one₀ two_ne_zero]
        ring
    _ ≤ 2 ^ 52 * 2 ^ power := by
        gcongr
        · norm_num
        · omega
    _ ≤ other * 2 ^ power := by gcongr

/-- Canonical magnitudes are in the order of their exponents, then of their digits. -/
theorem magnitude_le_iff (first : Canonical mantissa exponent) (second : Canonical other power) :
    magnitude mantissa exponent ≤ magnitude other power ↔
      exponent < power ∨ exponent = power ∧ mantissa ≤ other := by
  rcases lt_trichotomy exponent power with lower | rfl | higher
  · have full : 2 ^ 52 ≤ other := second.full.resolve_right (by have := first.least; omega)
    simp [lower, (magnitude_lt_of_lt first.mantissa_lt full lower).le]
  · simp [magnitude, mul_le_mul_iff_of_pos_right (show (0 : ℚ) < 2 ^ exponent by positivity)]
  · have full : 2 ^ 52 ≤ mantissa := first.full.resolve_right (by have := second.least; omega)
    have above := magnitude_lt_of_lt second.mantissa_lt full higher
    simp [above.not_ge, higher.not_gt, higher.ne']

/-! ### Comparisons with whole numbers -/

/-- Whether a double is no smaller than a whole number above zero. -/
def AtLeast (count : Nat) : Reading → Prop
  | .nan => False
  | .infinite negative => negative = false
  | .finite negative mantissa exponent => negative = false ∧ count ≤ magnitude mantissa exponent

theorem isLE_then_iff :
    ((compare exponent power).then (compare mantissa other)).isLE = true ↔
      exponent < power ∨ exponent = power ∧ mantissa ≤ other := by
  rw [Ordering.isLE_then_iff_or, compare_lt_iff_lt, compare_eq_iff_eq, Nat.isLE_compare]

theorem le_iff (x y : Float) :
    x ≤ y ↔ (x.toModel.unpack.compare y.toModel.unpack).any (·.isLE) = true :=
  decide_eq_true_iff

theorem lt_iff (x y : Float) :
    x < y ↔ x.toModel.unpack.compare y.toModel.unpack = some .lt :=
  decide_eq_true_iff.trans beq_iff_eq

theorem compare_swap (first second : UnpackedFloat) :
    second.compare first = (first.compare second).map Ordering.swap := by
  have swapped (exponent power : Int) (mantissa other : Nat) :
      (compare power exponent).then (compare other mantissa) =
        ((compare exponent power).then (compare mantissa other)).swap := by
    rw [Ordering.swap_then, ← Int.compare_swap, ← Nat.compare_swap]
  rcases first with ⟨⟨⟩⟩ | _ | ⟨⟨⟩⟩ | ⟨⟨⟩, mantissa, exponent, _⟩ <;>
    rcases second with ⟨⟨⟩⟩ | _ | ⟨⟨⟩⟩ | ⟨⟨⟩, other, power, _⟩ <;> try rfl
  case finite.positive.finite.positive => exact congrArg some (swapped _ _ _ _)
  case finite.negative.finite.negative =>
    exact congrArg (some ·.swap) (swapped _ _ _ _)

theorem not_lt_of_le (below : x ≤ y) : ¬ y < x := by
  rw [le_iff] at below
  rw [lt_iff, compare_swap x.toModel.unpack]
  generalize x.toModel.unpack.compare y.toModel.unpack = order at below ⊢
  rcases order with _ | _ | _ | _
  case some.gt => cases below
  all_goals simp

/-- A double that stands for a whole number above zero. -/
def IsWhole (count : Nat) (x : Float) : Prop :=
  ∃ mantissa exponent positive, x.toModel.unpack = .finite .positive mantissa exponent positive ∧
    magnitude mantissa exponent = count

theorem IsWhole.le_iff (isWhole : IsWhole count x) : x ≤ y ↔ AtLeast count (ofFloat y) := by
  obtain ⟨mantissa, exponent, positive, unpacked, whole⟩ := isWhole
  have first := canonical_of_unpack unpacked
  rw [Reading.le_iff, ofFloat_eq, unpacked]
  cases parts : y.toModel.unpack with
  | notANumber => simp [UnpackedFloat.compare, ofUnpacked, AtLeast]
  | infinity sign => cases sign <;> simp [UnpackedFloat.compare, ofUnpacked, AtLeast, isNegative]
  | zero sign =>
    have above : 0 < magnitude mantissa exponent := magnitude_pos positive
    simp only [whole, Nat.cast_pos] at above
    simp [UnpackedFloat.compare, ofUnpacked, AtLeast, magnitude, above.ne']
  | finite sign other power more =>
    have second := canonical_of_unpack parts
    cases sign with
    | negative => simp [UnpackedFloat.compare, ofUnpacked, AtLeast, isNegative]
    | positive =>
      simp [UnpackedFloat.compare, ofUnpacked, AtLeast, isNegative, isLE_then_iff, ← whole,
        magnitude_le_iff first second]

/-- What is not as large is smaller or no number. -/
theorem IsWhole.lt_iff (isWhole : IsWhole count y) :
    x.isNaN = true ∨ x < y ↔ ¬ AtLeast count (ofFloat x) := by
  obtain ⟨mantissa, exponent, positive, unpacked, whole⟩ := isWhole
  have first := canonical_of_unpack unpacked
  have number : x.isNaN = x.toModel.unpack.isNaN := rfl
  rw [Reading.lt_iff, ofFloat_eq, number, unpacked]
  cases parts : x.toModel.unpack with
  | notANumber => simp [UnpackedFloat.isNaN, ofUnpacked, AtLeast]
  | infinity sign =>
    cases sign <;>
      simp [UnpackedFloat.compare, UnpackedFloat.isNaN, ofUnpacked, AtLeast, isNegative]
  | zero sign =>
    have above : 0 < magnitude mantissa exponent := magnitude_pos positive
    simp only [whole, Nat.cast_pos] at above
    simp [UnpackedFloat.compare, UnpackedFloat.isNaN, ofUnpacked, AtLeast, magnitude, above.ne']
  | finite sign other power more =>
    have second := canonical_of_unpack parts
    cases sign with
    | negative =>
      simp [UnpackedFloat.compare, UnpackedFloat.isNaN, ofUnpacked, AtLeast, isNegative]
    | positive =>
      have order := magnitude_le_iff first second
      simp only [UnpackedFloat.compare, UnpackedFloat.isNaN, ofUnpacked, AtLeast, isNegative,
        ← whole, order, Option.some_inj, Ordering.then_eq_lt, compare_lt_iff_lt, compare_eq_iff_eq,
        true_and, Bool.false_eq_true, false_or]
      omega

theorem IsWhole.isNaN_eq_false (isWhole : IsWhole count x) (below : x ≤ y) : y.isNaN = false := by
  apply Bool.eq_false_iff.mpr
  intro nan
  exact isWhole.lt_iff.mp (.inl nan) (isWhole.le_iff.mp below)

/-! ### Values that are no number -/

theorem isNaN_iff (x : Float) : x.isNaN = true ↔ x.toModel.unpack = .notANumber := by
  change x.toModel.unpack.isNaN = true ↔ _
  cases x.toModel.unpack <;> simp [UnpackedFloat.isNaN]

theorem isNaN_of_packed (packed : x.toModel.toBits.toBitVec =
    UnpackedFloat.pack Format.binary64 .notANumber) : x.isNaN = true := by
  change (UnpackedFloat.unpack Format.binary64 x.toModel.toBits.toBitVec).isNaN = true
  rw [packed]
  decide

theorem isNaN_abs (nan : x.isNaN = true) : x.abs.isNaN = true := by
  apply isNaN_of_packed
  change UnpackedFloat.pack Format.binary64 x.toModel.unpack.abs = _
  rw [(isNaN_iff x).mp nan]
  rfl

theorem isNaN_sub (nan : x.isNaN = true ∨ y.isNaN = true) : (x - y).isNaN = true := by
  apply isNaN_of_packed
  change UnpackedFloat.pack Format.binary64
    (UnpackedFloat.sub Format.binary64 x.toModel.unpack y.toModel.unpack) = _
  rcases nan with nan | nan
  · rw [(isNaN_iff x).mp nan]
    rfl
  · rw [(isNaN_iff y).mp nan]
    cases x.toModel.unpack <;> rfl

/-- What is less than something is a number. -/
theorem isNaN_eq_false_of_lt (less : x < y) : x.isNaN = false := by
  apply Bool.eq_false_iff.mpr
  intro nan
  rw [lt_iff, (isNaN_iff x).mp nan] at less
  cases less

/-- Two doubles closer to each other than something are numbers. -/
theorem isNaN_eq_false_of_abs_sub_lt {bound : Float} (near : (x - y).abs < bound) :
    x.isNaN = false ∧ y.isNaN = false := by
  have number := isNaN_eq_false_of_lt near
  have apart : ¬ (x.isNaN = true ∨ y.isNaN = true) := by
    intro nan
    rw [isNaN_abs (isNaN_sub nan)] at number
    cases number
  exact ⟨Bool.eq_false_iff.mpr fun nan => apart (.inl nan),
    Bool.eq_false_iff.mpr fun nan => apart (.inr nan)⟩

/-! ### Comparisons with zero -/

theorem isFinite_iff (x : Float) :
    x.isFinite = true ↔
      ∃ negative mantissa exponent, ofFloat x = .finite negative mantissa exponent := by
  change x.toModel.unpack.isFinite = true ↔ _
  rw [ofFloat_eq]
  cases x.toModel.unpack <;> simp [UnpackedFloat.isFinite, ofUnpacked]

theorem lt_iff_of_zero_left (zero : x.toModel.unpack = .zero .positive) :
    x < y ↔ ofFloat y = .infinite false ∨
      ∃ mantissa exponent, 0 < mantissa ∧ ofFloat y = .finite false mantissa exponent := by
  rw [lt_iff, ofFloat_eq, zero]
  cases y.toModel.unpack with
  | notANumber => simp [UnpackedFloat.compare, ofUnpacked]
  | infinity sign => cases sign <;> simp [UnpackedFloat.compare, ofUnpacked, isNegative]
  | zero sign => simp [UnpackedFloat.compare, ofUnpacked]
  | finite sign mantissa exponent positive =>
    cases sign <;> simp [UnpackedFloat.compare, ofUnpacked, isNegative, positive]

theorem lt_iff_of_zero_right (zero : y.toModel.unpack = .zero .positive) :
    x < y ↔ ofFloat x = .infinite true ∨
      ∃ mantissa exponent, 0 < mantissa ∧ ofFloat x = .finite true mantissa exponent := by
  rw [lt_iff, ofFloat_eq, zero]
  cases x.toModel.unpack with
  | notANumber => simp [UnpackedFloat.compare, ofUnpacked]
  | infinity sign => cases sign <;> simp [UnpackedFloat.compare, ofUnpacked, isNegative]
  | zero sign => simp [UnpackedFloat.compare, ofUnpacked]
  | finite sign mantissa exponent positive =>
    cases sign <;> simp [UnpackedFloat.compare, ofUnpacked, isNegative, positive]

/-! ### Comparisons of finite doubles -/

/-- Dropping the sign of a number leaves the other parts of the word as they are. -/
theorem unpack_abs (number : x.isNaN = false) : x.abs.toModel.unpack = x.toModel.unpack.abs := by
  have number : x.toModel.unpack.isNaN = false := number
  have packed : UnpackedFloat.pack Format.binary64 x.toModel.unpack = x.toModel.toBits.toBitVec :=
    pack_unpack_of_valid x.toModel.valid
  have written : x.abs.toModel.toBits.toBitVec =
      UnpackedFloat.pack Format.binary64 x.toModel.unpack.abs := rfl
  have parts : @unpackExponent Format.binary64 x.abs.toModel.toBits.toBitVec =
        @unpackExponent Format.binary64 x.toModel.toBits.toBitVec ∧
      @unpackMantissa Format.binary64 x.abs.toModel.toBits.toBitVec =
        @unpackMantissa Format.binary64 x.toModel.toBits.toBitVec ∧
      Sign.ofBitVec (@unpackSign Format.binary64 x.abs.toModel.toBits.toBitVec) = .positive := by
    rw [written, ← packed]
    cases shape : x.toModel.unpack with
    | notANumber =>
      rw [shape] at number
      cases number
    | infinity sign => simp [UnpackedFloat.abs, UnpackedFloat.pack, packedInfinity,
        unpackExponent_packComponents, unpackMantissa_packComponents, unpackSign_packComponents]
    | zero sign => simp [UnpackedFloat.abs, UnpackedFloat.pack, packedZero,
        unpackExponent_packComponents, unpackMantissa_packComponents, unpackSign_packComponents]
    | finite sign mantissa exponent positive =>
      simp only [UnpackedFloat.abs, UnpackedFloat.pack]
      split_ifs <;> simp [packedInfinity, unpackExponent_packComponents,
        unpackMantissa_packComponents, unpackSign_packComponents]
  obtain ⟨exponent, mantissa, sign⟩ := parts
  revert number
  simp only [Float.Model.unpack, UnpackedFloat.unpack, exponent, mantissa, sign]
  intro number
  split_ifs <;> simp_all [UnpackedFloat.abs, UnpackedFloat.isNaN]

theorem isNaN_of_isFinite (finite : x.isFinite = true) : x.isNaN = false := by
  change x.toModel.unpack.isFinite = true at finite
  change x.toModel.unpack.isNaN = false
  cases parts : x.toModel.unpack <;> simp_all [UnpackedFloat.isFinite, UnpackedFloat.isNaN]

theorem isFinite_abs (finite : x.isFinite = true) : x.abs.isFinite = true := by
  change x.abs.toModel.unpack.isFinite = true
  rw [unpack_abs (isNaN_of_isFinite finite)]
  change x.toModel.unpack.isFinite = true at finite
  cases parts : x.toModel.unpack <;> simp_all [UnpackedFloat.isFinite, UnpackedFloat.abs]

theorem exact_abs (finite : x.isFinite = true) : exact x.abs = |exact x| := by
  have same := unpack_abs (isNaN_of_isFinite finite)
  change x.toModel.unpack.isFinite = true at finite
  rw [exact, exact, ofFloat_eq, ofFloat_eq, same]
  cases parts : x.toModel.unpack with
  | notANumber | infinity => rw [parts] at finite; cases finite
  | zero sign => cases sign <;> simp [UnpackedFloat.abs, ofUnpacked, value, isNegative, magnitude]
  | finite sign mantissa exponent positive =>
    have above : 0 < magnitude mantissa exponent := magnitude_pos positive
    cases sign <;> simp [UnpackedFloat.abs, ofUnpacked, value, isNegative, abs_of_pos above]

theorem compare_magnitude (first : Canonical mantissa exponent) (second : Canonical other power) :
    (compare exponent power).then (compare mantissa other) =
      cmp (magnitude mantissa exponent) (magnitude other power) := by
  have forward := magnitude_le_iff first second
  have backward := magnitude_le_iff second first
  rcases lt_trichotomy (magnitude mantissa exponent) (magnitude other power) with
    below | same | above
  · rw [below.cmp_eq_lt, Ordering.then_eq_lt, compare_lt_iff_lt, compare_eq_iff_eq,
      compare_lt_iff_lt]
    have apart := below.not_ge
    have order := below.le
    rw [backward] at apart
    rw [forward] at order
    omega
  · rw [same.cmp_eq_eq, Ordering.then_eq_eq, compare_eq_iff_eq, compare_eq_iff_eq]
    have order := same.le
    have orderBack := same.ge
    rw [forward] at order
    rw [backward] at orderBack
    omega
  · rw [above.cmp_eq_gt, Ordering.then_eq_gt, compare_gt_iff_gt, compare_eq_iff_eq,
      compare_gt_iff_gt]
    have apart := above.not_ge
    have order := above.le
    rw [forward] at apart
    rw [backward] at order
    omega

@[simp] theorem value_zero (sign : Sign) : (ofUnpacked (.zero sign)).value = 0 := by
  cases sign <;> simp [ofUnpacked, value, isNegative, magnitude]

/-- Comparing finite doubles is comparing the numbers that they stand for. -/
theorem compare_eq_cmp (left : x.isFinite = true) (right : y.isFinite = true) :
    x.toModel.unpack.compare y.toModel.unpack = some (cmp (exact x) (exact y)) := by
  change x.toModel.unpack.isFinite = true at left
  change y.toModel.unpack.isFinite = true at right
  rw [exact, exact, ofFloat_eq, ofFloat_eq]
  cases first : x.toModel.unpack with
  | notANumber | infinity =>
    rw [first] at left
    cases left
  | zero sign =>
    cases second : y.toModel.unpack with
    | notANumber | infinity =>
      rw [second] at right
      cases right
    | zero other =>
      rw [value_zero, value_zero, cmp_self_eq_eq]
      rfl
    | finite other digits power more =>
      have above : 0 < magnitude digits power := magnitude_pos more
      rw [value_zero]
      cases other with
      | positive => exact congrArg some above.cmp_eq_lt.symm
      | negative => exact congrArg some (neg_neg_of_pos above).cmp_eq_gt.symm
  | finite sign mantissa exponent positive =>
    have above : 0 < magnitude mantissa exponent := magnitude_pos positive
    cases second : y.toModel.unpack with
    | notANumber | infinity =>
      rw [second] at right
      cases right
    | zero other =>
      rw [value_zero]
      cases sign with
      | positive => exact congrArg some above.cmp_eq_gt.symm
      | negative => exact congrArg some (neg_neg_of_pos above).cmp_eq_lt.symm
    | finite other digits power more =>
      have aboveToo : 0 < magnitude digits power := magnitude_pos more
      have order := compare_magnitude (canonical_of_unpack first) (canonical_of_unpack second)
      cases sign with
      | positive =>
        cases other with
        | positive => exact congrArg some order
        | negative => exact congrArg some ((neg_neg_of_pos aboveToo).trans above).cmp_eq_gt.symm
      | negative =>
        cases other with
        | positive => exact congrArg some ((neg_neg_of_pos above).trans aboveToo).cmp_eq_lt.symm
        | negative =>
          -- what is farther below zero is smaller
          change some (Ordering.swap _) =
            some (cmp (-magnitude mantissa exponent) (-magnitude digits power))
          rw [order, cmp_swap]
          simp [cmp, cmpUsing]

theorem lt_iff_exact (left : x.isFinite = true) (right : y.isFinite = true) :
    x < y ↔ exact x < exact y := by
  rw [lt_iff, compare_eq_cmp left right, Option.some_inj, cmp_eq_lt_iff]

/-! ### Bytes -/

theorem shiftRight_mantissa (extended : ExtendedMantissa) (count : Nat) :
    (extended >>> count).mantissa = extended.mantissa / 2 ^ count := by
  induction count with
  | zero => simp [HShiftRight.hShiftRight, Nat.repeat]
  | succ count ih =>
    change (extended >>> count).mantissa / 2 = _
    rw [ih, Nat.div_div_eq_div_mul, Nat.pow_succ]

/-- Cutting off the fraction of a positive number keeps it at least as large as every whole number
that it was. -/
theorem le_roundToInt_iff :
    (count : Int) ≤ roundToInt .positive mantissa exponent ↔
      (count : ℚ) ≤ magnitude mantissa exponent := by
  have cut : roundToInt .positive mantissa exponent =
      ((mantissa <<< exponent.toNat / 2 ^ (-exponent).toNat : Nat) : Int) := by
    have shift : (0 - (exponent - exponent.toNat)).toNat = (-exponent).toNat := by omega
    simp only [roundToInt, decreaseExponent, shiftToExponent, Sign.apply, shiftRight_mantissa,
      ExtendedMantissa.ofMantissaAndAccuracy, Int.sub_zero, shift]
  rw [cut, Int.ofNat_le, Nat.le_div_iff_mul_le (by positivity), Nat.shiftLeft_eq]
  obtain ⟨shift, rfl | rfl⟩ := exponent.eq_nat_or_neg
  · have same : magnitude mantissa shift = (mantissa * 2 ^ shift : Nat) := by
      simp [magnitude]
    rw [same]
    simp
    norm_cast
  · have same : magnitude mantissa (-shift) = mantissa / 2 ^ shift := by
      simp [magnitude, zpow_neg, div_eq_mul_inv]
    rw [same, le_div_iff₀ (by positivity)]
    norm_cast
    simp

theorem le_toUInt8_iff (counted : 0 < count) (small : count ≤ 255) :
    count ≤ x.toUInt8.toNat ↔ AtLeast count (ofFloat x) := by
  have cut : x.toUInt8.toNat = min (x.toModel.unpack.toInt 0 255).toNat 255 := by
    change (UInt8.ofNatClamp _).toNat = _
    unfold UInt8.ofNatClamp
    split
    case isTrue fits =>
      rw [UInt8.toNat_ofNatLT]
      change (x.toModel.unpack.toInt 0 255).toNat < 256 at fits
      change (x.toModel.unpack.toInt 0 255).toNat = _
      omega
    case isFalse beyond =>
      change ¬ (x.toModel.unpack.toInt 0 255).toNat < 256 at beyond
      change 255 = _
      omega
  have inside : count ≤ x.toUInt8.toNat ↔ (count : Int) ≤ x.toModel.unpack.toInt 0 255 := by
    rw [cut]
    omega
  rw [inside, ofFloat_eq]
  cases x.toModel.unpack with
  | notANumber => simp [toInt, ofUnpacked, AtLeast]; omega
  | infinity sign => cases sign <;> simp [toInt, ofUnpacked, AtLeast, isNegative] <;> omega
  | zero sign => simp [toInt, ofUnpacked, AtLeast, magnitude]; omega
  | finite sign mantissa exponent positive =>
    cases sign with
    | positive => simp [toInt, ofUnpacked, AtLeast, isNegative, le_roundToInt_iff]
    | negative =>
      have below : roundToInt .negative mantissa exponent ≤ 0 := by
        simp [roundToInt, Sign.apply]
      simp [toInt, ofUnpacked, AtLeast, isNegative]
      omega

end Reading

end ArmLink.Decimal
