import Mathlib.Tactic.IntervalCases
import RecordFilter.Proofs.Exactness
import RecordFilter.Proofs.Rounding

set_option autoImplicit false

/-!
Which double a decimal is read as. Its whole part and its fraction are rounded apart, and so are
their sum and what the sum is scaled to. Of a whole decimal this leaves the double nearest to it. Of
a decimal of up to fifteen digits it leaves the double nearest to a quotient, since all of the
roundings before are too small to move the mantissa.
-/

namespace RecordFilter.Decimal

open Binary (rounded)

section Sign

/-- The number a decimal stands for, without its sign. -/
def absRat (d : Decimal) : Rat := d.mantissa / 10 ^ d.scale

theorem toRat_eq (d : Decimal) : d.toRat = if d.negative then -d.absRat else d.absRat := by
  unfold toRat absRat signed
  split
  · rw [Int.cast_neg, Int.cast_natCast, neg_div]
  · rw [Int.cast_natCast]

theorem abs_toRat (d : Decimal) : |d.toRat| = d.absRat := by
  have natural : 0 ≤ d.absRat := by
    unfold absRat
    positivity
  rw [toRat_eq]
  split
  · rw [abs_neg, abs_of_nonneg natural]
  · rw [abs_of_nonneg natural]

theorem toRat_eq_of_absRat {d e : Decimal} (same : d.absRat = e.absRat)
    (sign : d.mantissa ≠ 0 → d.negative = e.negative) : d.toRat = e.toRat := by
  rw [toRat_eq, toRat_eq, ← same]
  by_cases zero : d.mantissa = 0
  · simp [absRat, zero]
  · rw [sign zero]

/-- Of two decimals that are the same number, the one with more places has zeros to show for it. -/
theorem mantissa_of_absRat {d e : Decimal} {zeros : Nat} (same : d.absRat = e.absRat)
    (place : e.scale = d.scale + zeros) : e.mantissa = d.mantissa * 10 ^ zeros := by
  rw [absRat, absRat, div_eq_div_iff (by positivity) (by positivity), place, pow_add, ← mul_assoc,
    mul_right_comm] at same
  exact_mod_cast (mul_right_cancel₀ (by positivity) same).symm

theorem scale_le_of_absRat {d e : Decimal} (same : e.absRat = d.absRat)
    (noZeros : e.mantissa % 10 ≠ 0) : e.scale ≤ d.scale := by
  by_contra more
  obtain ⟨zeros, place⟩ : ∃ zeros, e.scale = d.scale + (zeros + 1) :=
    ⟨e.scale - d.scale - 1, by omega⟩
  rw [mantissa_of_absRat same.symm place, pow_succ, ← Nat.mul_assoc, Nat.mul_mod_left] at noZeros
  exact noZeros rfl

end Sign

section Rounded

theorem two_mul_exponentBit : 2 * FloatType.double.exponentBit = 2 ^ 53 := by decide

theorem leastUnit_double : FloatType.leastUnit .double = -1074 := by decide

theorem lt_limit {q : Rat} (small : q ≤ 2 ^ 97) : q < FloatType.double.limit :=
  small.trans_lt (pow_lt_pow_right₀ (by norm_num) (by decide))

/-- Rounding changes a rational by a small part of it. -/
theorem rounded_near {q : Rat} (large : 1 / 2 ^ 100 ≤ q) (small : q ≤ 2 ^ 97) :
    |rounded .double q - q| ≤ q / 2 ^ 53 := by
  have normal : (2 : Rat) ^ (-1022 : Int) ≤ q := by
    calc (2 : Rat) ^ (-1022 : Int) ≤ 2 ^ (-100 : Int) :=
          zpow_le_zpow_right₀ (by norm_num) (by norm_num)
      _ = 1 / 2 ^ 100 := by norm_num
      _ ≤ q := large
  have near := Binary.nearest_near_of_normal (t := .double) normal (lt_limit small) false
  rw [← Nat.cast_ofNat, ← Nat.cast_mul, two_mul_exponentBit] at near
  exact_mod_cast near

theorem rounded_of_digits {n : Nat} (digits : n < 2 ^ 53) : rounded .double n = n := by
  have isValue : (n : Rat) = n * 2 ^ (0 : Int) := by rw [zpow_zero, mul_one]
  refine Binary.absRat_nearest_of_digits isValue (two_mul_exponentBit ▸ digits) (by decide) ?_ _
  apply lt_limit
  have : (n : Rat) < 2 ^ 53 := by exact_mod_cast digits
  linarith

/-- The whole numbers that are doubles are those with no more digits than a double has. -/
theorem rounded_eq_iff {n : Nat} (small : n ≤ 2 ^ 97) :
    rounded .double n = n ↔ ∃ k e : Nat, k < 2 ^ 53 ∧ n = k * 2 ^ e := by
  constructor
  · intro same
    by_cases digits : n < 2 ^ 53
    · exact ⟨n, 0, digits, by rw [pow_zero, mul_one]⟩
    · have large : ((2 ^ 53 : Nat) : Rat) ≤ rounded .double n := by
        rw [same]
        exact_mod_cast not_lt.mp digits
      rw [← two_mul_exponentBit] at large
      obtain ⟨e, isUnit⟩ := Int.eq_ofNat_of_zero_le (Binary.unit_nonneg large)
      rw [rounded, Binary.absRat_eq, isUnit, zpow_natCast] at same
      exact ⟨_, e, two_mul_exponentBit ▸ Binary.significand_lt _, by exact_mod_cast same.symm⟩
  · rintro ⟨k, e, digits, rfl⟩
    have isValue : ((k * 2 ^ e : Nat) : Rat) = k * 2 ^ (e : Int) := by
      push_cast
      rw [zpow_natCast]
    refine Binary.absRat_nearest_of_digits isValue (two_mul_exponentBit ▸ digits) ?_ ?_ _
    · rw [leastUnit_double]
      omega
    · exact lt_limit (by exact_mod_cast small)

theorem rounded_whole {n : Nat} (small : n ≤ 2 ^ 97) :
    ∃ m : Nat, rounded .double n = m := by
  by_cases digits : n < 2 ^ 53
  · exact ⟨n, rounded_of_digits digits⟩
  · have positive : (0 : Rat) < n := by
      exact_mod_cast (by omega : 0 < n)
    have long : (2 : Rat) ^ (53 : Int) ≤ n := by exact_mod_cast not_lt.mp digits
    have order := le_binaryOrder long
    obtain ⟨k, isUnit⟩ : ∃ k : Nat, FloatType.unitOf .double n = k := by
      refine ⟨(FloatType.unitOf .double n).toNat, ?_⟩
      have : binaryOrder (n : Rat) - 52 ≤ FloatType.unitOf .double n := le_max_right _ _
      omega
    refine ⟨roundHalfEven (n / 2 ^ FloatType.unitOf .double n) * 2 ^ k, ?_⟩
    rw [rounded, Binary.absRat_nearest positive (lt_limit (by exact_mod_cast small)), isUnit]
    push_cast
    rfl

theorem rounded_power {s : Nat} (few : s ≤ 22) :
    rounded .double (10 ^ s : Nat) = (10 ^ s : Nat) := by
  have small : 10 ^ s ≤ 2 ^ 97 :=
    (Nat.pow_le_pow_right (by norm_num) few).trans (by norm_num)
  rw [rounded_eq_iff small]
  refine ⟨5 ^ s, s, ?_, by rw [← Nat.mul_pow]⟩
  exact (Nat.pow_le_pow_right (by norm_num) few).trans_lt (by norm_num)

end Rounded

section Roundings

/-- How much of a number one rounding may add or take. -/
def roundoff : Rat := 1 / 2 ^ 53

/-- One number is another one but for the errors of so many roundings. -/
def WithinRoundings (k : Nat) (q r : Rat) : Prop :=
  q * (1 - roundoff) ^ k ≤ r ∧ r ≤ q * (1 + roundoff) ^ k

theorem withinRoundings_rounded {q : Rat} (large : 1 / 2 ^ 100 ≤ q) (small : q ≤ 2 ^ 97) :
    WithinRoundings 1 q (rounded .double q) := by
  have near := abs_le.mp (rounded_near large small)
  rw [WithinRoundings, pow_one, pow_one, roundoff]
  constructor <;> linarith

namespace WithinRoundings

variable {j k : Nat} {p q r s : Rat}

theorem trans (first : WithinRoundings j p q) (second : WithinRoundings k q r) :
    WithinRoundings (j + k) p r := by
  have positive : (0 : Rat) ≤ 1 - roundoff := by norm_num [roundoff]
  have natural : (0 : Rat) ≤ 1 + roundoff := by norm_num [roundoff]
  constructor
  · calc p * (1 - roundoff) ^ (j + k) = p * (1 - roundoff) ^ j * (1 - roundoff) ^ k := by ring
      _ ≤ q * (1 - roundoff) ^ k := mul_le_mul_of_nonneg_right first.1 (pow_nonneg positive k)
      _ ≤ r := second.1
  · calc r ≤ q * (1 + roundoff) ^ k := second.2
      _ ≤ p * (1 + roundoff) ^ j * (1 + roundoff) ^ k :=
          mul_le_mul_of_nonneg_right first.2 (pow_nonneg natural k)
      _ = p * (1 + roundoff) ^ (j + k) := by ring

theorem mul (within : WithinRoundings k q r) (natural : 0 ≤ s) :
    WithinRoundings k (q * s) (r * s) := by
  constructor
  · linarith [mul_le_mul_of_nonneg_right within.1 natural]
  · linarith [mul_le_mul_of_nonneg_right within.2 natural]

theorem add (first : WithinRoundings k p q) (second : WithinRoundings k r s) :
    WithinRoundings k (p + r) (q + s) := by
  constructor
  · linarith [first.1, second.1]
  · linarith [first.2, second.2]

/-- A few roundings leave at least half of a number and add less than as much. -/
theorem bounds (within : WithinRoundings k q r) (few : k ≤ 3) (natural : 0 ≤ q) :
    q / 2 ≤ r ∧ r ≤ 2 * q := by
  have half : 1 / 2 ≤ (1 - roundoff) ^ k := by
    interval_cases k <;> norm_num [roundoff]
  have twice : (1 + roundoff) ^ k ≤ 2 := by
    interval_cases k <;> norm_num [roundoff]
  constructor
  · linarith [within.1, mul_le_mul_of_nonneg_left half natural]
  · linarith [within.2, mul_le_mul_of_nonneg_left twice natural]

end WithinRoundings

/-- A natural number of fifteen digits is found again after three roundings. -/
theorem floor_of_withinRoundings {n : Nat} {r : Rat} (digits : n < 10 ^ 15)
    (within : WithinRoundings 3 n r) : (r + 1 / 2).floor = n := by
  have few : (n : Rat) < 10 ^ 15 := by exact_mod_cast digits
  obtain ⟨lower, upper⟩ := within
  change ⌊r + 1 / 2⌋ = (n : Int)
  rw [Int.floor_eq_iff, Int.cast_natCast]
  norm_num [roundoff] at lower upper
  constructor <;> linarith

end Roundings

section Whole

theorem toDouble_of_no_places {d : Decimal} (noPlaces : d.scale = 0) :
    d.toDouble = .nearest .double (d.signed < 0) d.mantissa := by
  have abs : d.signed.natAbs = d.mantissa := by
    unfold signed
    split <;> omega
  rw [toDouble, if_pos noPlaces, Binary.ofInt, abs]

theorem toDouble_of_no_rest {d : Decimal} {n : Nat} (whole : d.mantissa = n * 10 ^ d.scale)
    (places : d.scale ≠ 0) :
    d.toDouble = .nearest .double d.negative (rounded .double n) := by
  have quotient : d.mantissa / Nat.pow 10 d.scale = n := by
    rw [whole, Nat.pow_eq, Nat.mul_div_cancel _ (by positivity)]
  have rest : d.mantissa % Nat.pow 10 d.scale = 0 := by
    rw [whole, Nat.pow_eq, Nat.mul_mod_left]
  have zero : rounded .double 0 = 0 := Binary.absRat_nearest_zero false
  simp only [toDouble, quotient, rest, places, Nat.cast_zero, zero, zero_div, ↓reduceIte]

theorem lt_of_whole {d : Decimal} {n : Nat} (whole : d.mantissa = n * 10 ^ d.scale) :
    n < 2 ^ 96 :=
  calc n ≤ n * 10 ^ d.scale := Nat.le_mul_of_pos_right n (by positivity)
    _ = d.mantissa := whole.symm
    _ < 2 ^ 96 := d.mantissa_lt

theorem toDouble_of_whole {d : Decimal} {n : Nat} (whole : d.mantissa = n * 10 ^ d.scale) :
    d.toDouble.isFinite = true ∧ d.toDouble.absRat = rounded .double n ∧
      (d.mantissa ≠ 0 → d.toDouble.negative = d.negative) := by
  have small : (n : Rat) ≤ 2 ^ 96 := by exact_mod_cast (lt_of_whole whole).le
  by_cases places : d.scale = 0
  · rw [places, pow_zero, Nat.mul_one] at whole
    rw [toDouble_of_no_places places, whole]
    refine ⟨Binary.isFinite_nearest (Nat.cast_nonneg n) (lt_limit (by linarith)) _, rfl, ?_⟩
    intro nonzero
    change decide (d.signed < 0) = d.negative
    unfold signed
    cases d.negative with
    | false =>
        rw [if_neg Bool.false_ne_true, decide_eq_false_iff_not]
        omega
    | true =>
        rw [if_pos rfl, decide_eq_true_iff]
        omega
  · have limited : rounded .double n < FloatType.double.limit := by
      rcases Nat.eq_zero_or_pos n with rfl | positive
      · rw [rounded_of_digits (by norm_num)]
        exact lt_limit (by norm_num)
      · have least : (1 : Rat) ≤ n := by exact_mod_cast positive
        have near := rounded_near (by linarith : 1 / 2 ^ 100 ≤ (n : Rat)) (by linarith)
        exact lt_limit (by linarith [(abs_le.mp near).2])
    rw [toDouble_of_no_rest whole places]
    exact ⟨Binary.isFinite_nearest (Binary.absRat_nonneg _) limited _,
      Binary.absRat_nearest_absRat _ limited _, fun _ => rfl⟩

end Whole

section Fifteen

variable {d : Decimal}

theorem rounded_power_bounds {power : Nat} (scale : 1 ≤ power ∧ power ≤ 10 ^ 28) :
    WithinRoundings 1 power (rounded .double power) ∧ 1 / 2 ≤ rounded .double power ∧
      rounded .double power ≤ 2 * 10 ^ 28 := by
  have powerLeast : (1 : Rat) ≤ power := by exact_mod_cast scale.1
  have powerMost : (power : Rat) ≤ 10 ^ 28 := by exact_mod_cast scale.2
  have within := withinRoundings_rounded (q := power) (by linarith) (by linarith)
  obtain ⟨least, most⟩ := within.bounds (by norm_num) (by linarith)
  exact ⟨within, by linarith, by linarith⟩

/-- Dividing fifteen digits by a power of ten stays among the normal floats. -/
theorem quotient_bounds {n power : Nat} (scale : 1 ≤ power ∧ power ≤ 10 ^ 28) (nonzero : n ≠ 0)
    (digits : n < 10 ^ 15) :
    1 / 2 ^ 99 ≤ n / rounded .double power ∧ n / rounded .double power ≤ 2 ^ 54 := by
  have least : (1 : Rat) ≤ n := by exact_mod_cast Nat.one_le_iff_ne_zero.mpr nonzero
  have most : (n : Rat) < 10 ^ 15 := by exact_mod_cast digits
  obtain ⟨_, divisorLeast, divisorMost⟩ := rounded_power_bounds scale
  have positive : 0 < rounded .double power := by linarith
  constructor
  · rw [le_div_iff₀ positive]
    linarith
  · rw [div_le_iff₀ positive]
    linarith

/-- A fraction that is divided, added to the whole part and scaled back is rounded three times. -/
theorem scaled_withinRoundings {n power : Nat} (scale : 1 ≤ power ∧ power ≤ 10 ^ 28)
    (fraction : n % power ≠ 0) (digits : n < 10 ^ 15) :
    0 < rounded .double ((n % power : Nat) / rounded .double power) ∧
      WithinRoundings 3 n (rounded .double (rounded .double ((n / power : Nat) +
        rounded .double ((n % power : Nat) / rounded .double power)) * rounded .double power)) := by
  have sum : ((n / power : Nat) : Rat) * power + (n % power : Nat) = n := by
    exact_mod_cast Nat.div_add_mod' n power
  have least : (1 : Rat) ≤ n := by
    exact_mod_cast (Nat.one_le_iff_ne_zero.mpr fraction).trans (Nat.mod_le n power)
  have most : (n : Rat) < 10 ^ 15 := by exact_mod_cast digits
  have wholeNatural : (0 : Rat) ≤ (n / power : Nat) := Nat.cast_nonneg _
  have wholeMost : ((n / power : Nat) : Rat) ≤ n := by exact_mod_cast Nat.div_le_self n power
  obtain ⟨divides, divisorLeast, divisorMost⟩ := rounded_power_bounds scale
  obtain ⟨quotientLeast, quotientMost⟩ :=
    quotient_bounds scale fraction ((Nat.mod_le n power).trans_lt digits)
  generalize ((n / power : Nat) : Rat) = whole at *
  generalize ((n % power : Nat) : Rat) = rest at *
  generalize rounded .double power = divisor at *
  have positive : 0 < divisor := by linarith
  have partWithin := withinRoundings_rounded (q := rest / divisor) (by linarith) (by linarith)
  obtain ⟨partLeast, partMost⟩ := partWithin.bounds (by norm_num) (by linarith)
  generalize rounded .double (rest / divisor) = part at *
  -- The whole part and the fraction each carry one rounding, of the divisor and of the quotient,
  -- so their sum does.
  have beforeScaling : WithinRoundings 1 n ((whole + part) * divisor) := by
    have parts := (divides.mul wholeNatural).add (partWithin.mul positive.le)
    rwa [div_mul_cancel₀ _ positive.ne', mul_comm (power : Rat), mul_comm divisor, ← add_mul, sum]
      at parts
  have sumWithin := withinRoundings_rounded (q := whole + part) (by linarith) (by linarith)
  have beforeRounding := beforeScaling.trans (sumWithin.mul positive.le)
  obtain ⟨scaledLeast, scaledMost⟩ := beforeRounding.bounds (by norm_num) (by linarith)
  refine ⟨by linarith, ?_⟩
  exact beforeRounding.trans (withinRoundings_rounded (by linarith) (by linarith))

theorem power_bounds (d : Decimal) : 1 ≤ 10 ^ d.scale ∧ 10 ^ d.scale ≤ 10 ^ 28 :=
  ⟨Nat.one_le_pow _ _ (by norm_num), Nat.pow_le_pow_right (by norm_num) d.scale_le⟩

theorem scale_ne_zero (fraction : d.mantissa % 10 ^ d.scale ≠ 0) : d.scale ≠ 0 := by
  intro zero
  rw [zero, pow_zero, Nat.mod_one] at fraction
  exact fraction rfl

/-- Up to fifteen digits, the steps that lead to a double find the mantissa again and divide it by
the power of ten. -/
theorem toDouble_of_fifteen (digits : d.mantissa < 10 ^ 15)
    (fraction : d.mantissa % 10 ^ d.scale ≠ 0) :
    d.toDouble = .nearest .double d.negative
      (d.mantissa / rounded .double (10 ^ d.scale : Nat)) := by
  have places := scale_ne_zero fraction
  have exactWhole : rounded .double (d.mantissa / 10 ^ d.scale : Nat) = _ :=
    rounded_of_digits ((Nat.div_le_self _ _).trans_lt (digits.trans (by norm_num)))
  have exactRest : rounded .double (d.mantissa % 10 ^ d.scale : Nat) = _ :=
    rounded_of_digits ((Nat.mod_le _ _).trans_lt (digits.trans (by norm_num)))
  obtain ⟨partPositive, within⟩ := scaled_withinRoundings d.power_bounds fraction digits
  have found := floor_of_withinRoundings digits within
  simp only [toDouble, Nat.pow_eq, places, exactWhole, exactRest, found, partPositive.ne',
    Int.cast_natCast, ↓reduceIte]

/-- A quotient by a rounded power of ten is off by two roundings at most. -/
theorem near_of_quotient {n power : Nat} (scale : 1 ≤ power ∧ power ≤ 10 ^ 28) (nonzero : n ≠ 0)
    (digits : n < 10 ^ 15) :
    |rounded .double (n / rounded .double power) - n / power| ≤
      n / power * (1 / 2 ^ 52 + 1 / 2 ^ 100) := by
  have powerPositive : (0 : Rat) < power := by exact_mod_cast scale.1
  obtain ⟨divides, divisorLeast, divisorMost⟩ := rounded_power_bounds scale
  obtain ⟨quotientLeast, quotientMost⟩ := quotient_bounds scale nonzero digits
  generalize rounded .double power = divisor at *
  have positive : 0 < divisor := by linarith
  have within := withinRoundings_rounded (q := n / divisor) (by linarith) (by linarith)
  have natural := (within.bounds (by norm_num) (by linarith)).1
  have product := within.mul positive.le
  generalize rounded .double (n / divisor) = quotient at *
  obtain ⟨value, isValue⟩ : ∃ value : Rat, n / power = value := ⟨_, rfl⟩
  have valueNatural : 0 ≤ value := isValue ▸ by positivity
  have isDividend : (n : Rat) = value * power := by
    rw [← isValue, div_mul_cancel₀ _ powerPositive.ne']
  -- The quotient times the rounded power is the dividend but for one rounding, and the rounded
  -- power is the power but for another.
  rw [div_mul_cancel₀ _ positive.ne', isDividend] at product
  obtain ⟨productLower, productUpper⟩ := product
  obtain ⟨divisorLower, divisorUpper⟩ := divides
  rw [pow_one] at productLower productUpper divisorLower divisorUpper
  have lower : value * (1 - roundoff) ≤ quotient * (1 + roundoff) := by
    refine le_of_mul_le_mul_right ?_ powerPositive
    linarith [mul_le_mul_of_nonneg_left divisorUpper (by linarith : 0 ≤ quotient)]
  have upper : quotient * (1 - roundoff) ≤ value * (1 + roundoff) := by
    refine le_of_mul_le_mul_right ?_ powerPositive
    linarith [mul_le_mul_of_nonneg_left divisorLower (by linarith : 0 ≤ quotient)]
  rw [isValue, abs_le]
  norm_num [roundoff] at lower upper ⊢
  constructor <;> linarith

end Fifteen

section Spacing

variable {d : Decimal}

/-- Where the powers of two and of ten that belong to the last digits of doubles and of decimals
come close to the largest that 52 bits hold. -/
theorem powers_gap : ∀ i < 124, ∀ j < 29, 2 ^ i * 10 ^ j ≤ (2 ^ 52 + 2) * 2 ^ 74 →
    2 ^ i * 10 ^ j ≤ 4 * 10 ^ 15 * 2 ^ 74 ∨ ∃ c < 4, i = 86 + 10 * c ∧ j = 12 - 3 * c := by
  decide +kernel

/-- Four ranges in which the doubles are further apart than the digits that are read from them. -/
def IsCoarse (value : Rat) : Prop :=
  ∃ c < 4, 2 ^ (12 + 10 * c) ≤ value ∧ value < 4504 * 1000 ^ c

/-- Outside of these ranges, doubles are close enough together for the last digit that is read. -/
theorem spacing_le {value : Rat} (least : 2 ^ (-74 : Int) ≤ value) (most : value < 2 ^ (50 : Int))
    (fine : ¬ IsCoarse value) {j : Nat}
    (inScale : j ≤ 28) (inBits : value * 10 ^ j ≤ 2 ^ 52 + 2) :
    2 ^ FloatType.unitOf .double value * 10 ^ j ≤ (4 * 10 ^ 15 / 2 ^ 52 : Rat) := by
  have positive : 0 < value := lt_of_lt_of_le (by positivity) least
  have orderLeast := le_binaryOrder least
  have orderMost := binaryOrder_lt positive most
  have unit : FloatType.unitOf .double value = binaryOrder value - 52 := by
    rw [FloatType.unitOf, leastUnit_double, FloatType.fractionBits]
    omega
  obtain ⟨i, place⟩ : ∃ i : Nat, binaryOrder value = i - 74 :=
    ⟨(binaryOrder value + 74).toNat, by omega⟩
  have leading : (2 : Rat) ^ i ≤ value * 2 ^ 74 := by
    have := (binaryOrder_spec positive).1
    rw [place, zpow_sub₀ (by norm_num), zpow_natCast, div_le_iff₀ (by norm_num)] at this
    exact_mod_cast this
  have bits : 2 ^ i * 10 ^ j ≤ (2 ^ 52 + 2) * 2 ^ 74 := by
    have : (2 : Rat) ^ i * 10 ^ j ≤ (2 ^ 52 + 2) * 2 ^ 74 := by
      calc (2 : Rat) ^ i * 10 ^ j ≤ value * 2 ^ 74 * 10 ^ j := by gcongr
        _ = value * 10 ^ j * 2 ^ 74 := by ring
        _ ≤ (2 ^ 52 + 2) * 2 ^ 74 := by gcongr
    exact_mod_cast this
  rcases powers_gap i (by omega) j (by omega) bits with small | ⟨c, few, isI, isJ⟩
  · have smallRat : (2 : Rat) ^ i * 10 ^ j ≤ 4 * 10 ^ 15 * 2 ^ 74 := by exact_mod_cast small
    rw [unit, place, zpow_sub₀ (by norm_num), zpow_sub₀ (by norm_num), zpow_natCast]
    norm_num at smallRat ⊢
    linarith
  -- Four pairs of powers are past the bound, and each of them is a coarse range.
  · refine absurd ⟨c, few, ?_⟩ fine
    rw [isI] at leading
    rw [isJ] at inBits
    interval_cases c <;> norm_num at leading inBits ⊢ <;> constructor <;> linarith

/-- With so few places that the power of ten is a double, the only error is the last rounding. -/
theorem close_of_few_places (digits : d.mantissa < 10 ^ 15) (nonzero : d.mantissa ≠ 0)
    (few : d.scale ≤ 22) (fine : IsCoarse d.absRat → rounded .double d.absRat = d.absRat) {j : Nat}
    (inScale : j ≤ 28) (inBits : d.absRat * 10 ^ j ≤ 2 ^ 52 + 2) :
    |rounded .double d.absRat - d.absRat| * 10 ^ j ≤ 4442 / 10000 := by
  by_cases coarse : IsCoarse d.absRat
  · rw [fine coarse, sub_self, abs_zero, zero_mul]
    norm_num
  have mantissaLeast : (1 : Rat) ≤ d.mantissa := by
    exact_mod_cast Nat.one_le_iff_ne_zero.mpr nonzero
  have mantissaMost : (d.mantissa : Rat) < 10 ^ 15 := by exact_mod_cast digits
  have least : (2 : Rat) ^ (-74 : Int) ≤ d.absRat := by
    calc (2 : Rat) ^ (-74 : Int) ≤ 1 / 10 ^ 22 := by norm_num
      _ ≤ d.mantissa / 10 ^ d.scale := by
          have : (10 : Rat) ^ d.scale ≤ 10 ^ 22 := pow_le_pow_right₀ (by norm_num) few
          gcongr
  have most : d.absRat < 2 ^ (50 : Int) := by
    calc d.absRat ≤ d.mantissa :=
          div_le_self (by linarith) (one_le_pow₀ (by norm_num : (1 : Rat) ≤ 10))
      _ < 2 ^ (50 : Int) := by norm_num at mantissaMost ⊢; linarith
  have positive : 0 < d.absRat := lt_of_lt_of_le (by positivity) least
  have near : |rounded .double d.absRat - d.absRat| ≤ 2 ^ FloatType.unitOf .double d.absRat / 2 :=
    Binary.nearest_near positive (lt_limit (most.le.trans (by norm_num))) false
  have spacing := spacing_le least most coarse inScale inBits
  calc |rounded .double d.absRat - d.absRat| * 10 ^ j ≤
        2 ^ FloatType.unitOf .double d.absRat / 2 * 10 ^ j := by gcongr
    _ = 2 ^ FloatType.unitOf .double d.absRat * 10 ^ j / 2 := by ring
    _ ≤ 4 * 10 ^ 15 / 2 ^ 52 / 2 := by gcongr
    _ ≤ 4442 / 10000 := by norm_num

/-- A double from which a decimal can be read again: the error is a small part of the number, and
within four ninths of the last of 52 bits at whatever place that is. -/
structure IsCloseTo (x : Binary .double) (d : Decimal) : Prop where
  finite : x.isFinite = true
  sign : x.negative = d.negative
  near : |x.absRat - d.absRat| ≤ d.absRat * (1 / 2 ^ 52 + 1 / 2 ^ 100)
  close {j : Nat} : j ≤ 28 → d.absRat * 10 ^ j ≤ 2 ^ 52 + 2 →
    |x.absRat - d.absRat| * 10 ^ j ≤ 4442 / 10000

/-- Outside of the coarse ranges, and for the doubles within them, the double is close unless there
are more places than the powers of ten that are doubles have. It is close even then if the number is
so small that its 28th place is within 52 bits. -/
theorem toDouble_isCloseTo (digits : d.mantissa < 10 ^ 15)
    (fraction : d.mantissa % 10 ^ d.scale ≠ 0)
    (fine : IsCoarse d.absRat → rounded .double d.absRat = d.absRat)
    (places : d.scale ≤ 22 ∨ d.absRat < 2 / 10 ^ 13) : IsCloseTo d.toDouble d := by
  have nonzero : d.mantissa ≠ 0 := by
    intro zero
    rw [zero, Nat.zero_mod] at fraction
    exact fraction rfl
  have double := toDouble_of_fifteen digits fraction
  have isRounded : d.toDouble.absRat =
      rounded .double (d.mantissa / rounded .double (10 ^ d.scale : Nat)) := by
    rw [double]
    rfl
  obtain ⟨quotientLeast, quotientMost⟩ := quotient_bounds d.power_bounds nonzero digits
  have near := near_of_quotient d.power_bounds nonzero digits
  rw [← isRounded, Nat.cast_pow, Nat.cast_ofNat] at near
  constructor
  · rw [double]
    exact Binary.isFinite_nearest (by linarith) (lt_limit (by linarith)) _
  · rw [double]
    rfl
  · exact near
  · intro j inScale inBits
    rcases places with few | tiny
    · have exactPower : d.toDouble.absRat = rounded .double d.absRat := by
        rw [isRounded, rounded_power few, absRat, Nat.cast_pow, Nat.cast_ofNat]
      rw [exactPower]
      exact close_of_few_places digits nonzero few fine inScale inBits
    · calc |d.toDouble.absRat - d.absRat| * 10 ^ j ≤
            d.absRat * (1 / 2 ^ 52 + 1 / 2 ^ 100) * 10 ^ j :=
          mul_le_mul_of_nonneg_right near (by positivity)
        _ ≤ 2 / 10 ^ 13 * (1 / 2 ^ 52 + 1 / 2 ^ 100) * 10 ^ 28 := by
            gcongr
            norm_num
        _ ≤ 4442 / 10000 := by norm_num

end Spacing

end RecordFilter.Decimal
