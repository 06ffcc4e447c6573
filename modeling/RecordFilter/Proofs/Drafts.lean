import Mathlib.Algebra.Order.Field.Power
import Mathlib.Algebra.Order.Field.Rat
import Mathlib.Algebra.Order.Ring.Cast
import Mathlib.Data.Rat.Cast.Order
import Mathlib.Logic.Function.Iterate
import Mathlib.Tactic.FieldSimp
import Mathlib.Tactic.Linarith
import Mathlib.Tactic.NormNum
import Mathlib.Tactic.Positivity
import Mathlib.Tactic.Ring
import RecordFilter.Numeric.Decimal

set_option autoImplicit false

/-!
How a decimal comes out of binary digits. Halving keeps the number as long as 96 bits can hold its
digits, and then loses next to nothing. Digits are dropped from the end, each time rounding what is
left, which moves the number by less than five ninths of the last digit kept: a decimal with no
more digits than are kept comes out as it is when the binary number lies within four ninths of
that digit.
-/

namespace RecordFilter.Decimal.Draft

/-- The number under construction. -/
def value (d : Draft) : Rat := d.mantissa * 10 ^ d.exponent

theorem value_nonneg (d : Draft) : 0 ≤ d.value := by
  unfold value
  positivity

section Halving

/-- An even enough mantissa is divided without a new place. -/
theorem halve_of_dvd {n : Nat} {d : Draft} (even : 2 ^ n ∣ d.mantissa) :
    halve n d = ⟨d.mantissa / 2 ^ n, d.exponent⟩ := by
  induction n generalizing d with
  | zero => simp [halve]
  | succ n ih =>
      have half : d.mantissa % 2 = 0 :=
        Nat.mod_eq_zero_of_dvd ((Dvd.intro_left (2 ^ n) rfl).trans even)
      have rest : 2 ^ n ∣ d.mantissa / 2 := by
        rw [Nat.pow_succ'] at even
        exact Nat.dvd_div_of_mul_dvd even
      simp only [halve, half, ne_eq, not_true_eq_false, decide_false, Bool.false_and,
        Bool.false_eq_true, ↓reduceIte]
      rw [ih rest, Nat.div_div_eq_div_mul, Nat.pow_succ']

theorem halve_succ (n : Nat) (d : Draft) : halve (n + 1) d = halve n (halve 1 d) := by
  simp only [halve]
  split <;> rfl

/-- What one halving may lose, as a part of the number: half of the last bit of a mantissa that
cannot be multiplied by five. -/
def loss : Rat := 5 / mantissaLimit

theorem mantissaLimit_eq : (mantissaLimit : Rat) = 2 ^ 96 := by
  norm_num [mantissaLimit]

theorem halve_one_value (d : Draft) :
    d.value / 2 * (1 - loss) ≤ (halve 1 d).value ∧ (halve 1 d).value ≤ d.value / 2 := by
  have positive : (0 : Rat) < 10 ^ d.exponent := by positivity
  have limit : (0 : Rat) < mantissaLimit := by rw [mantissaLimit_eq]; norm_num
  have noGain : d.value / 2 * (1 - loss) ≤ d.value / 2 := by
    have : (0 : Rat) ≤ d.value * loss := by unfold value loss; positivity
    linarith
  simp only [halve, Bool.and_eq_true, decide_eq_true_eq]
  split
  · have same : value ⟨d.mantissa * 5, d.exponent - 1⟩ = d.value / 2 := by
      simp only [value, Nat.cast_mul, Nat.cast_ofNat]
      rw [zpow_sub_one₀ (by norm_num)]
      ring
    rw [same]
    exact ⟨noGain, le_refl _⟩
  · rename_i noRoom
    have digits : (d.mantissa : Rat) = 2 * (d.mantissa / 2 : Nat) + (d.mantissa % 2 : Nat) := by
      exact_mod_cast (Nat.div_add_mod d.mantissa 2).symm
    have lost : ((d.mantissa % 2 : Nat) : Rat) ≤ d.mantissa * loss := by
      rcases Nat.mod_two_eq_zero_or_one d.mantissa with even | odd
      · rw [even, Nat.cast_zero]
        unfold loss
        positivity
      · have large : mantissaLimit ≤ d.mantissa * 5 := by omega
        rw [odd, Nat.cast_one, loss, ← mul_div_assoc, one_le_div limit]
        exact_mod_cast large
    have halved : value ⟨d.mantissa / 2, d.exponent⟩ =
        (d.mantissa - (d.mantissa % 2 : Nat)) / 2 * 10 ^ d.exponent := by
      rw [value, digits]
      simp
    rw [halved, value]
    constructor
    · calc _ = (d.mantissa - d.mantissa * loss) / 2 * 10 ^ d.exponent := by ring
        _ ≤ _ := by gcongr
    · calc _ ≤ ((d.mantissa : Rat) - 0) / 2 * 10 ^ d.exponent := by gcongr; exact Nat.cast_nonneg _
        _ = _ := by ring

theorem halve_value (n : Nat) (d : Draft) :
    d.value / 2 ^ n * (1 - loss) ^ n ≤ (halve n d).value ∧
      (halve n d).value ≤ d.value / 2 ^ n := by
  have small : (0 : Rat) ≤ 1 - loss := by norm_num [loss, mantissaLimit_eq]
  induction n generalizing d with
  | zero => simp [halve]
  | succ n ih =>
      obtain ⟨lower, upper⟩ := halve_one_value d
      obtain ⟨lowerRest, upperRest⟩ := ih (halve 1 d)
      rw [halve_succ]
      constructor
      · calc _ = d.value / 2 * (1 - loss) / 2 ^ n * (1 - loss) ^ n := by ring
          _ ≤ (halve 1 d).value / 2 ^ n * (1 - loss) ^ n := by gcongr
          _ ≤ _ := lowerRest
      · calc _ ≤ (halve 1 d).value / 2 ^ n := upperRest
          _ ≤ d.value / 2 / 2 ^ n := by gcongr
          _ = _ := by ring

/-- All halvings that a double may need lose next to nothing together. -/
theorem loss_small {n : Nat} (few : n ≤ 1074) : 1 - 1 / 2 ^ 80 ≤ (1 - loss) ^ n := by
  have positive : 0 ≤ loss := by norm_num [loss, mantissaLimit_eq]
  have most : (n : Rat) ≤ 1074 := by exact_mod_cast few
  have together : (n : Rat) * loss ≤ 1 / 2 ^ 80 := by
    calc (n : Rat) * loss ≤ 1074 * loss := by gcongr
      _ ≤ 1 / 2 ^ 80 := by norm_num [loss, mantissaLimit_eq]
  have bernoulli := one_add_mul_le_pow (a := -loss) (by norm_num [loss, mantissaLimit_eq]) n
  rw [← sub_eq_add_neg] at bernoulli
  linarith

theorem halve_exponent_le (n : Nat) (d : Draft) : (halve n d).exponent ≤ d.exponent := by
  induction n generalizing d with
  | zero => exact le_refl _
  | succ n ih =>
      rw [halve_succ]
      refine (ih _).trans ?_
      simp only [halve]
      split
      · exact (sub_le_self _ (by norm_num))
      · exact le_refl _

end Halving

section Dropping

theorem dropDigit_value_near (d : Draft) : |d.dropDigit.value - d.value| ≤ 5 * 10 ^ d.exponent := by
  have positive : (0 : Rat) < 10 ^ d.exponent := by positivity
  have digits : (d.mantissa : Rat) = 10 * (d.mantissa / 10 : Nat) + (d.mantissa % 10 : Nat) := by
    exact_mod_cast (Nat.div_add_mod d.mantissa 10).symm
  have moved : d.dropDigit.value - d.value =
      ((if 5 ≤ d.mantissa % 10 then 10 else 0 : Rat) - (d.mantissa % 10 : Nat)) *
        10 ^ d.exponent := by
    rw [value, value, dropDigit, zpow_add_one₀ (by norm_num), digits]
    push_cast
    split <;> ring
  have last : ((d.mantissa % 10 : Nat) : Rat) < 10 := by
    exact_mod_cast Nat.mod_lt d.mantissa (by decide)
  rw [moved, abs_mul, abs_of_pos positive]
  refine mul_le_mul_of_nonneg_right ?_ positive.le
  split
  · rename_i up
    have : (5 : Rat) ≤ (d.mantissa % 10 : Nat) := by exact_mod_cast up
    rw [abs_le]
    constructor <;> linarith
  · rename_i down
    have : ((d.mantissa % 10 : Nat) : Rat) < 5 := by exact_mod_cast not_le.mp down
    have : (0 : Rat) ≤ (d.mantissa % 10 : Nat) := Nat.cast_nonneg _
    rw [abs_le]
    constructor <;> linarith

theorem iterate_dropDigit_exponent (k : Nat) (d : Draft) :
    (dropDigit^[k] d).exponent = d.exponent + k := by
  induction k with
  | zero => simp
  | succ k ih =>
      rw [Function.iterate_succ_apply', dropDigit, ih]
      push_cast
      ring

/-- Digit after digit, what rounding adds up to stays below five ninths of the last digit left. -/
theorem iterate_dropDigit_near (k : Nat) (d : Draft) :
    |(dropDigit^[k] d).value - d.value| ≤ 5 / 9 * (10 ^ (d.exponent + k) - 10 ^ d.exponent) := by
  induction k with
  | zero => simp
  | succ k ih =>
      have last := (dropDigit^[k] d).dropDigit_value_near
      rw [iterate_dropDigit_exponent] at last
      rw [Function.iterate_succ_apply']
      calc _ ≤ |(dropDigit^[k] d).dropDigit.value - (dropDigit^[k] d).value| +
            |(dropDigit^[k] d).value - d.value| := abs_sub_le _ _ _
        _ ≤ 5 * 10 ^ (d.exponent + k) +
            5 / 9 * (10 ^ (d.exponent + k) - 10 ^ d.exponent) := add_le_add last ih
        _ = _ := by
            rw [Nat.cast_add, Nat.cast_one, ← add_assoc, zpow_add_one₀ (by norm_num)]
            ring

/-- Seen from the last digit left, that is less than one step. -/
theorem iterate_dropDigit_mantissa_near (k : Nat) (d : Draft) :
    |((dropDigit^[k] d).mantissa : Rat) - d.value * 10 ^ (-(d.exponent + k))| < 5 / 9 := by
  have place : (0 : Rat) < 10 ^ (d.exponent + k) := by positivity
  have near := iterate_dropDigit_near k d
  have scaled : (dropDigit^[k] d).value - d.value =
      ((dropDigit^[k] d).mantissa - d.value * 10 ^ (-(d.exponent + k))) *
        10 ^ (d.exponent + k) := by
    rw [value, iterate_dropDigit_exponent, sub_mul, mul_assoc, ← zpow_add₀ (by norm_num),
      neg_add_cancel, zpow_zero, mul_one]
  rw [scaled, abs_mul, abs_of_pos place] at near
  have : (0 : Rat) < 10 ^ d.exponent := by positivity
  exact lt_of_mul_lt_mul_right (by linarith) place.le

end Dropping

section Limits

theorem limitScale_eq {n : Nat} {d : Draft}
    (nonzero : ∀ j < n, 10 ≤ (dropDigit^[j] d).mantissa) : limitScale n d = dropDigit^[n] d := by
  induction n generalizing d with
  | zero => rfl
  | succ n ih =>
      have first : ¬ d.mantissa < 10 := not_lt.mpr (nonzero 0 n.succ_pos)
      rw [limitScale, if_neg first, Function.iterate_succ_apply]
      exact ih fun j below => nonzero (j + 1) (Nat.succ_lt_succ below)

/-- Digits are dropped until the mantissa fits into 52 bits, or the point is reached. -/
theorem limitPrecision_spec (n : Nat) (d : Draft) :
    ∃ k ≤ n, limitPrecision n d = dropDigit^[k] d ∧
      (∀ j < k, Nat.pow 2 52 ≤ (dropDigit^[j] d).mantissa) ∧
      (k = n ∨ (dropDigit^[k] d).mantissa < Nat.pow 2 52) := by
  induction n generalizing d with
  | zero => exact ⟨0, le_refl _, rfl, fun _ below => absurd below (Nat.not_lt_zero _), Or.inl rfl⟩
  | succ n ih =>
      by_cases fits : d.mantissa < Nat.pow 2 52
      · refine ⟨0, Nat.zero_le _, ?_, fun _ below => absurd below (Nat.not_lt_zero _), Or.inr fits⟩
        rw [limitPrecision, if_pos fits, Function.iterate_zero, id]
      · obtain ⟨k, bound, same, long, stops⟩ := ih d.dropDigit
        refine ⟨k + 1, Nat.succ_le_succ bound, ?_, ?_, ?_⟩
        · rw [limitPrecision, if_neg fits, same, Function.iterate_succ_apply]
        · intro j below
          cases j with
          | zero => exact not_lt.mp fits
          | succ j => exact long j (Nat.lt_of_succ_lt_succ below)
        · exact stops.imp (congrArg Nat.succ) id

theorem strip_spec (n : Nat) (d : Draft) :
    (strip n d).value = d.value ∧ (strip n d).mantissa ≤ d.mantissa ∧
      d.exponent ≤ (strip n d).exponent ∧ (strip n d).exponent ≤ d.exponent + n ∧
      ((strip n d).exponent = d.exponent + n ∨ (strip n d).mantissa % 10 ≠ 0) := by
  induction n generalizing d with
  | zero => simp [strip]
  | succ n ih =>
      rw [strip]
      split
      · rename_i zeros
        obtain ⟨same, shorter, lower, upper, stops⟩ := ih ⟨d.mantissa / 10, d.exponent + 1⟩
        simp only at lower upper stops
        refine ⟨?_, shorter.trans (Nat.div_le_self _ _), by omega, by omega, ?_⟩
        · have digits : (d.mantissa : Rat) = 10 * (d.mantissa / 10 : Nat) := by
            exact_mod_cast (Nat.mul_div_cancel' (Nat.dvd_of_mod_eq_zero zeros)).symm
          rw [same, value, value, digits, zpow_add_one₀ (by norm_num)]
          ring
        · refine stops.imp (fun reached => ?_) id
          omega
      · rename_i noZeros
        exact ⟨rfl, le_refl _, le_refl _, by omega, Or.inr noZeros⟩

end Limits

section Limited

/-- The draft with its digits limited to 28 places and 52 bits. -/
def limited (d : Draft) : Draft :=
  let scaled := d.limitScale (-28 - d.exponent).toNat
  scaled.limitPrecision (-scaled.exponent).toNat

/-- Unless the draft is too small for 28 places, digits are dropped one after the other until all
of these hold: there are 28 places at most, and the mantissa fits or the point is reached. -/
theorem limited_spec {d : Draft} (places : d.exponent ≤ 0)
    (large : 99 / 100 * 10 ^ (-28 : Int) ≤ d.value) :
    ∃ k : Nat, d.limited = dropDigit^[k] d ∧ -28 ≤ d.exponent + k ∧ d.exponent + k ≤ 0 ∧
      (∀ j < k, -28 ≤ d.exponent + j → Nat.pow 2 52 ≤ (dropDigit^[j] d).mantissa) ∧
      (d.exponent + k = 0 ∨ (dropDigit^[k] d).mantissa < Nat.pow 2 52) := by
  generalize isScaled : (-28 - d.exponent).toNat = n
  have nonzero : ∀ j < n, 10 ≤ (dropDigit^[j] d).mantissa := by
    intro j below
    have near := (abs_lt.mp (iterate_dropDigit_mantissa_near j d)).1
    have tens : (99 / 10 : Rat) ≤ d.value * 10 ^ (-(d.exponent + j)) := by
      calc (99 / 10 : Rat) = 99 / 100 * 10 ^ (-28 : Int) * 10 ^ (29 : Int) := by norm_num
        _ ≤ d.value * 10 ^ (-(d.exponent + j)) := by
            gcongr
            · norm_num
            · omega
    have : (9 : Rat) < (dropDigit^[j] d).mantissa := by linarith
    exact_mod_cast this
  have scaled : d.limitScale n = dropDigit^[n] d := limitScale_eq nonzero
  obtain ⟨k, bound, same, long, stops⟩ :=
    limitPrecision_spec (-(d.exponent + n)).toNat (dropDigit^[n] d)
  simp only [← Function.iterate_add_apply] at same long stops
  refine ⟨k + n, ?_, by omega, by omega, ?_, ?_⟩
  · rw [limited, isScaled, scaled, iterate_dropDigit_exponent, same]
  · intro j below inScale
    obtain ⟨i, rfl⟩ : ∃ i, j = i + n := ⟨j - n, by omega⟩
    exact long i (by omega)
  · refine stops.imp (fun reached => ?_) id
    omega

variable {d : Draft} {m s : Nat}

theorem eq_of_near {a b : Nat} (near : |(a : Rat) - b| < 1) : a = b := by
  have : |(a : Int) - b| < 1 := by exact_mod_cast near
  have := Int.abs_lt_one_iff.mp this
  omega

/-- Digits that are dropped down to a place leave the decimal within four ninths of a step there. -/
theorem iterate_dropDigit_mantissa_of_close {n k j : Nat} (place : d.exponent + k = -j)
    (close : |d.value * 10 ^ j - n| ≤ 4 / 9) : (dropDigit^[k] d).mantissa = n := by
  have near := iterate_dropDigit_mantissa_near k d
  rw [place, neg_neg, zpow_natCast] at near
  apply eq_of_near
  calc _ ≤ |((dropDigit^[k] d).mantissa : Rat) - d.value * 10 ^ j| + |d.value * 10 ^ j - n| :=
        abs_sub_le _ _ _
    _ < 5 / 9 + 4 / 9 := add_lt_add_of_lt_of_le near close
    _ = 1 := by norm_num

theorem value_of_close (places : -s ≤ d.exponent) (close : |d.value * 10 ^ s - m| < 1) :
    d.value = m / 10 ^ s := by
  obtain ⟨zeros, place⟩ : ∃ zeros : Nat, d.exponent + s = zeros :=
    ⟨(d.exponent + s).toNat, by omega⟩
  have whole : d.value * 10 ^ s = (d.mantissa * 10 ^ zeros : Nat) := by
    rw [value, mul_assoc, ← zpow_natCast, ← zpow_add₀ (by norm_num), place, zpow_natCast]
    push_cast
    rfl
  rw [whole] at close
  rw [eq_div_iff (by positivity), whole, eq_of_near close]

theorem natCast_div_mul_pow : (m / 10 ^ s * 10 ^ s : Rat) = m :=
  div_mul_cancel₀ _ (by positivity)

/-- A draft with all places of a decimal of fifteen digits has room for them: no digit is dropped
in these places. -/
theorem exponent_le_of_long {k : Nat} (digits : m < 10 ^ 15) (few : s ≤ 28)
    (within : d.exponent ≤ -s) (close : |d.value * 10 ^ s - m| ≤ 4 / 9)
    (long : ∀ j < k, -28 ≤ d.exponent + j → Nat.pow 2 52 ≤ (dropDigit^[j] d).mantissa) :
    d.exponent + k ≤ -s := by
  by_contra beyond
  obtain ⟨i, place⟩ : ∃ i : Nat, d.exponent + i = -s := ⟨(-s - d.exponent).toNat, by omega⟩
  have tooLong := long i (by omega) (by omega)
  rw [iterate_dropDigit_mantissa_of_close place close] at tooLong
  norm_num at tooLong digits
  omega

/-- Digits that are dropped behind the places of a decimal leave the decimal, as long as the draft
is close to it in every place that 52 bits can hold. -/
theorem iterate_dropDigit_value_of_close {k : Nat} (behind : d.exponent + k ≤ -s)
    (inScale : -28 ≤ d.exponent + k) (fits : (dropDigit^[k] d).mantissa < 2 ^ 52)
    (near : |d.value - m / 10 ^ s| ≤ m / 10 ^ s / 2 ^ 51)
    (close : ∀ j ≤ 28, (m / 10 ^ s * 10 ^ j : Rat) ≤ 2 ^ 52 + 2 →
      |d.value * 10 ^ j - m / 10 ^ s * 10 ^ j| ≤ 4 / 9) :
    (dropDigit^[k] d).value = m / 10 ^ s := by
  obtain ⟨zeros, place⟩ : ∃ zeros : Nat, d.exponent + k = -(s + zeros : Nat) :=
    ⟨(-s - (d.exponent + k)).toNat, by omega⟩
  have whole : (m / 10 ^ s * 10 ^ (s + zeros) : Rat) = (m * 10 ^ zeros : Nat) := by
    rw [pow_add, ← mul_assoc, natCast_div_mul_pow]
    push_cast
    rfl
  have inBits : (m / 10 ^ s * 10 ^ (s + zeros) : Rat) ≤ 2 ^ 52 + 2 := by
    have left := (abs_lt.mp (iterate_dropDigit_mantissa_near k d)).1
    rw [place, neg_neg, zpow_natCast] at left
    have fitsRat : ((dropDigit^[k] d).mantissa : Rat) + 1 ≤ 2 ^ 52 := by exact_mod_cast fits
    have unit : (0 : Rat) ≤ 10 ^ (s + zeros) := by positivity
    have scaled := mul_le_mul_of_nonneg_right (abs_le.mp near).1 unit
    linarith
  have isDecimal := iterate_dropDigit_mantissa_of_close place
    (whole ▸ close (s + zeros) (by omega) inBits)
  rw [value, isDecimal, iterate_dropDigit_exponent, place, ← whole, zpow_neg, zpow_natCast,
    mul_inv_cancel_right₀ (by positivity)]

/-- A draft with fewer places than a decimal of fifteen digits has no more digits either. -/
theorem mantissa_lt_of_close (digits : m < 10 ^ 15) (short : -s ≤ d.exponent)
    (close : |d.value * 10 ^ s - m| ≤ 4 / 9) : d.mantissa < 2 ^ 52 := by
  have few : (m : Rat) < 10 ^ 15 := by exact_mod_cast digits
  have fits : (d.mantissa : Rat) < 2 ^ 52 := by
    calc (d.mantissa : Rat) = d.value * 10 ^ (-d.exponent) := by
          rw [value, mul_assoc, ← zpow_add₀ (by norm_num), add_neg_cancel, zpow_zero, mul_one]
      _ ≤ d.value * 10 ^ s := by
          rw [← zpow_natCast]
          have := d.value_nonneg
          gcongr
          · norm_num
          · omega
      _ ≤ m + 4 / 9 := by linarith [(abs_le.mp close).2]
      _ < 2 ^ 52 := by linarith
  exact_mod_cast fits

theorem value_large_of_near (positive : 0 < m) (few : s ≤ 28)
    (near : |d.value - m / 10 ^ s| ≤ m / 10 ^ s / 2 ^ 51) :
    99 / 100 * 10 ^ (-28 : Int) ≤ d.value := by
  have least : (10 : Rat) ^ (-28 : Int) ≤ m / 10 ^ s := by
    rw [zpow_neg, inv_eq_one_div]
    gcongr
    · exact_mod_cast positive
    · exact_mod_cast Nat.pow_le_pow_right (by norm_num) few
  linarith [(abs_le.mp near).1]

/-- A draft that is a decimal of fifteen digits but for an error comes out as this decimal, when
the error is a small part of the number and within four ninths of the last of 52 bits. -/
theorem limited_value (positive : 0 < m) (digits : m < 10 ^ 15) (scale : 0 < s ∧ s ≤ 28)
    (places : d.exponent ≤ 0) (near : |d.value - m / 10 ^ s| ≤ m / 10 ^ s / 2 ^ 51)
    (close : ∀ j ≤ 28, (m / 10 ^ s * 10 ^ j : Rat) ≤ 2 ^ 52 + 2 →
      |d.value * 10 ^ j - m / 10 ^ s * 10 ^ j| ≤ 4 / 9) :
    d.limited.value = m / 10 ^ s ∧ d.limited.mantissa < 2 ^ 52 ∧
      -28 ≤ d.limited.exponent ∧ d.limited.exponent ≤ 0 := by
  have closeUnits : |d.value * 10 ^ s - m| ≤ 4 / 9 := by
    have few : (m : Rat) < 10 ^ 15 := by exact_mod_cast digits
    have units := close s scale.2 (by rw [natCast_div_mul_pow]; linarith)
    rwa [natCast_div_mul_pow] at units
  obtain ⟨k, isLimited, inScale, beforePoint, long, stops⟩ :=
    limited_spec places (value_large_of_near positive scale.2 near)
  rcases le_or_gt d.exponent (-s) with within | short
  · -- The places of the decimal are all there, and its digits would fit: none of them is dropped.
    have behind : d.exponent + k ≤ -s := exponent_le_of_long digits scale.2 within closeUnits long
    have fits := stops.resolve_left (by omega)
    rw [isLimited, iterate_dropDigit_exponent]
    exact ⟨iterate_dropDigit_value_of_close behind inScale fits near close, fits, inScale,
      beforePoint⟩
  · -- There are fewer places, and few enough digits for all of them to be kept.
    have fits : d.mantissa < 2 ^ 52 := mantissa_lt_of_close digits short.le closeUnits
    have kept : k = 0 := by
      by_contra dropped
      exact absurd (long 0 (by omega) (by omega)) (not_le.mpr fits)
    rw [isLimited, kept, Function.iterate_zero, id]
    exact ⟨value_of_close short.le (closeUnits.trans_lt (by norm_num)), fits, by omega, places⟩

end Limited

end RecordFilter.Decimal.Draft
