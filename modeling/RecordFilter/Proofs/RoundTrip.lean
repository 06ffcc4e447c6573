import RecordFilter.Proofs.Doubles
import RecordFilter.Proofs.Drafts

set_option autoImplicit false

/-!
What a decimal becomes when it is read as a double and back. Of a whole double all digits are read,
so that whole decimals are kept if they are doubles. Of other doubles no more digits are read than
52 bits hold, which is why decimals of up to fifteen digits are kept where the doubles are close
enough together.
-/

namespace RecordFilter.Decimal

open Binary (rounded)

/-- The decimal is the same number, with no more places, when it was read as a double and back. -/
def IsKept (d : Decimal) : Prop :=
  ∃ e, ofDouble? d.toDouble = some e ∧ e.toRat = d.toRat ∧ e.scale ≤ d.scale

theorem ofParts?_eq_some_iff {negative : Bool} {mantissa scale : Nat} {d : Decimal} :
    ofParts? negative mantissa scale = some d ↔
      d.negative = negative ∧ d.mantissa = mantissa ∧ d.scale = scale := by
  unfold ofParts?
  constructor
  · intro found
    split at found
    · cases found
      exact ⟨rfl, rfl, rfl⟩
    · cases found
  · rintro ⟨rfl, rfl, rfl⟩
    rw [dif_pos ⟨d.mantissa_lt, d.scale_le⟩]

section Whole

variable {d : Decimal} {n : Nat}

theorem ofBinary_of_whole {x : Binary .double} (whole : x.absRat = n) :
    Draft.ofBinary x.significand x.unit = ⟨n, 0⟩ := by
  rw [Binary.absRat_eq] at whole
  unfold Draft.ofBinary
  split
  · rename_i fraction
    obtain ⟨k, isUnit⟩ : ∃ k : Nat, x.unit = -k := ⟨(-x.unit).toNat, by omega⟩
    have digits : x.significand = n * 2 ^ k := by
      rw [isUnit, zpow_neg, zpow_natCast, ← div_eq_mul_inv, div_eq_iff (by positivity)] at whole
      exact_mod_cast whole
    rw [isUnit, neg_neg, Int.toNat_natCast, Draft.halve_of_dvd ⟨n, by rw [digits, mul_comm]⟩,
      digits]
    simp
  · obtain ⟨k, isUnit⟩ : ∃ k : Nat, x.unit = k := ⟨x.unit.toNat, by omega⟩
    rw [isUnit, zpow_natCast] at whole
    rw [isUnit, Int.toNat_natCast, Nat.pow_eq]
    congr 1
    exact_mod_cast whole

theorem ofDouble?_of_whole {x : Binary .double} (finite : x.isFinite = true)
    (whole : x.absRat = n) : ofDouble? x = ofParts? x.negative n 0 := by
  simp only [ofDouble?, finite, Bool.not_true, Bool.false_eq_true, ↓reduceIte,
    ofBinary_of_whole whole]
  split
  · rename_i zero
    rw [Binary.magnitude_eq_zero_iff, whole, Nat.cast_eq_zero] at zero
    rw [zero]
  · rfl

/-- The doubles on either side of the limit: the one at `2 ^ 96` has no decimal. -/
example : ofDouble? (.ofBits .double 0x45f0000000000000) = none ∧
    ofDouble? (.ofBits .double 0x45efffffffffffff) =
      ofParts? false 79228162514264328797450928128 0 := by
  decide +kernel

/-- Of a whole decimal, the nearest double is read, digit by digit. -/
theorem read_of_whole (whole : d.mantissa = n * 10 ^ d.scale) :
    ∃ m : Nat, rounded .double n = m ∧
      ofDouble? d.toDouble = ofParts? d.toDouble.negative m 0 := by
  obtain ⟨finite, isRounded, _⟩ := toDouble_of_whole whole
  obtain ⟨m, isWhole⟩ := rounded_whole ((lt_of_whole whole).le.trans (by norm_num))
  exact ⟨m, isWhole, ofDouble?_of_whole finite (isRounded.trans isWhole)⟩

theorem scale_of_whole {e : Decimal} (whole : d.mantissa = n * 10 ^ d.scale)
    (found : ofDouble? d.toDouble = some e) : e.scale = 0 := by
  obtain ⟨m, _, read⟩ := read_of_whole whole
  exact (ofParts?_eq_some_iff.mp (read ▸ found)).2.2

/-- The whole decimals that are kept are those with no more binary digits than a double has. -/
theorem isKept_iff_of_whole (whole : d.mantissa = n * 10 ^ d.scale) :
    d.IsKept ↔ ∃ k e : Nat, k < 2 ^ 53 ∧ n = k * 2 ^ e := by
  have isWhole : d.absRat = n := by
    rw [absRat, whole, Nat.cast_mul, Nat.cast_pow, Nat.cast_ofNat,
      mul_div_cancel_right₀ _ (by positivity)]
  obtain ⟨m, isRounded, read⟩ := read_of_whole whole
  rw [← rounded_eq_iff ((lt_of_whole whole).le.trans (by norm_num)), isRounded, Nat.cast_inj,
    IsKept, read]
  constructor
  · rintro ⟨e, found, same, _⟩
    obtain ⟨_, mantissa, scale⟩ := ofParts?_eq_some_iff.mp found
    rw [← abs_toRat, ← same, abs_toRat, absRat, mantissa, scale, pow_zero, div_one] at isWhole
    exact_mod_cast isWhole
  · intro same
    let e : Decimal := ⟨d.toDouble.negative, n, 0, lt_of_whole whole, Nat.zero_le _⟩
    have isWholeToo : e.absRat = n := by rw [absRat, pow_zero, div_one]
    have sameRat := toRat_eq_of_absRat (isWhole.trans isWholeToo.symm) fun nonzero =>
      ((toDouble_of_whole whole).2.2 nonzero).symm
    exact ⟨e, ofParts?_eq_some_iff.mpr ⟨rfl, same.symm, rfl⟩, sameRat.symm, Nat.zero_le _⟩

end Whole

section Fraction

variable {d : Decimal}

/-- The draft a double starts from is the double, but for what halving loses. -/
theorem ofBinary_value (x : Binary .double) :
    x.absRat * (1 - 1 / 2 ^ 80) ≤ (Draft.ofBinary x.significand x.unit).value ∧
      (Draft.ofBinary x.significand x.unit).value ≤ x.absRat ∧
      (Draft.ofBinary x.significand x.unit).exponent ≤ 0 := by
  have natural := x.absRat_nonneg
  rw [Binary.absRat_eq] at *
  unfold Draft.ofBinary
  split
  · obtain ⟨n, isUnit⟩ : ∃ n : Nat, x.unit = -n := ⟨(-x.unit).toNat, by omega⟩
    have few : n ≤ 1074 := by
      have least := x.leastUnit_le_unit
      rw [leastUnit_double] at least
      omega
    have halved : (⟨x.significand, 0⟩ : Draft).value / 2 ^ n = x.significand * 2 ^ x.unit := by
      rw [Draft.value, zpow_zero, mul_one, isUnit, zpow_neg, zpow_natCast, div_eq_mul_inv]
    have kept := mul_le_mul_of_nonneg_left (Draft.loss_small few) natural
    obtain ⟨lower, upper⟩ := Draft.halve_value n ⟨x.significand, 0⟩
    rw [halved] at lower upper
    rw [isUnit, neg_neg, Int.toNat_natCast, ← isUnit]
    exact ⟨kept.trans lower, upper, Draft.halve_exponent_le _ _⟩
  · obtain ⟨n, isUnit⟩ : ∃ n : Nat, x.unit = n := ⟨x.unit.toNat, by omega⟩
    have same : (⟨x.significand * Nat.pow 2 x.unit.toNat, 0⟩ : Draft).value =
        x.significand * 2 ^ x.unit := by
      rw [Draft.value, isUnit, Int.toNat_natCast, zpow_natCast, zpow_zero, mul_one]
      push_cast [Nat.pow_eq]
      rfl
    rw [same]
    exact ⟨mul_le_of_le_one_right natural (by norm_num), le_refl _, le_refl _⟩

theorem ofParts?_of_draft {f : Draft} (negative : Bool) (mantissa : f.mantissa < mantissaLimit)
    (least : -28 ≤ f.exponent) (most : f.exponent ≤ 0) :
    ∃ e, ofParts? negative f.mantissa (-f.exponent).toNat = some e ∧ e.negative = negative ∧
      e.absRat = f.value := by
  obtain ⟨s, isScale⟩ : ∃ s : Nat, f.exponent = -s := ⟨(-f.exponent).toNat, by omega⟩
  have scale : (-f.exponent).toNat = s := by omega
  refine ⟨⟨negative, f.mantissa, s, mantissa, by omega⟩,
    ofParts?_eq_some_iff.mpr ⟨rfl, rfl, scale.symm⟩, rfl, ?_⟩
  rw [absRat, Draft.value, isScale, zpow_neg, zpow_natCast, div_eq_mul_inv]

theorem ofDouble?_of_nonzero {x : Binary .double} (finite : x.isFinite = true)
    (nonzero : x.magnitude ≠ 0) :
    let precise := (Draft.ofBinary x.significand x.unit).limited
    let final := precise.strip (-precise.exponent).toNat
    ofDouble? x = ofParts? x.negative final.mantissa (-final.exponent).toNat := by
  simp only [ofDouble?, finite, nonzero, Bool.not_true, Bool.false_eq_true, ↓reduceIte]
  rfl

theorem IsCloseTo.limited_value {x : Binary .double} (close : IsCloseTo x d)
    (digits : d.mantissa < 10 ^ 15) (nonzero : 0 < d.mantissa) (places : 0 < d.scale) :
    let limited := (Draft.ofBinary x.significand x.unit).limited
    limited.value = d.absRat ∧ limited.mantissa < 2 ^ 52 ∧
      -28 ≤ limited.exponent ∧ limited.exponent ≤ 0 := by
  have positive : 0 ≤ d.absRat := by
    unfold absRat
    positivity
  have near := close.near
  obtain ⟨lower, upper, notAbove⟩ := ofBinary_value x
  generalize Draft.ofBinary x.significand x.unit = start at *
  have twice : x.absRat ≤ 2 * d.absRat := by linarith [(abs_le.mp near).2]
  have lost : |start.value - d.absRat| ≤ |x.absRat - d.absRat| + d.absRat * (2 / 2 ^ 80) := by
    have halved : |start.value - x.absRat| ≤ d.absRat * (2 / 2 ^ 80) := by
      rw [abs_le]
      constructor <;> linarith
    linarith [abs_sub_le start.value x.absRat d.absRat]
  have startNear : |start.value - d.absRat| ≤ d.absRat / 2 ^ 51 := by linarith
  refine Draft.limited_value nonzero digits ⟨places, d.scale_le⟩ notAbove startNear ?_
  intro j inScale inBits
  change d.absRat * 10 ^ j ≤ 2 ^ 52 + 2 at inBits
  change |start.value * 10 ^ j - d.absRat * 10 ^ j| ≤ 4 / 9
  have place : (0 : Rat) < 10 ^ j := by positivity
  rw [← sub_mul, abs_mul, abs_of_pos place]
  have := mul_le_mul_of_nonneg_right lost place.le
  linarith [close.close inScale inBits]

theorem IsCloseTo.read {x : Binary .double} (close : IsCloseTo x d)
    (digits : d.mantissa < 10 ^ 15) (nonzero : 0 < d.mantissa) (places : 0 < d.scale) :
    ∃ e, ofDouble? x = some e ∧ e.toRat = d.toRat ∧ e.scale ≤ d.scale := by
  obtain ⟨value, short, least, most⟩ := close.limited_value digits nonzero places
  have notZero : x.magnitude ≠ 0 := by
    have positive : 0 < d.absRat := by
      unfold absRat
      positivity
    have near := (abs_le.mp close.near).1
    rw [ne_eq, Binary.magnitude_eq_zero_iff]
    intro zero
    linarith
  have isRead := ofDouble?_of_nonzero close.finite notZero
  generalize (Draft.ofBinary x.significand x.unit).limited = limited at *
  obtain ⟨sameValue, shorter, notLess, notMore, stops⟩ :=
    limited.strip_spec (-limited.exponent).toNat
  have fits : (limited.strip (-limited.exponent).toNat).mantissa < mantissaLimit :=
    shorter.trans_lt (short.trans (by decide))
  obtain ⟨e, found, sign, abs⟩ :=
    ofParts?_of_draft x.negative fits (least.trans notLess) (by omega)
  have same : e.absRat = d.absRat := by rw [abs, sameValue, value]
  refine ⟨e, isRead.trans found, toRat_eq_of_absRat same fun _ => sign.trans close.sign, ?_⟩
  obtain ⟨_, mantissa, scale⟩ := ofParts?_eq_some_iff.mp found
  rcases stops with reached | noZeros
  · omega
  · exact scale_le_of_absRat same (mantissa ▸ noZeros)

/-- Decimals of up to fifteen digits are kept when the doubles nearest to them are close. -/
theorem isKept_of_fifteen (digits : d.mantissa < 10 ^ 15)
    (fine : IsCoarse d.absRat → rounded .double d.absRat = d.absRat)
    (places : d.scale ≤ 22 ∨ d.absRat < 2 / 10 ^ 13) : d.IsKept := by
  by_cases fraction : d.mantissa % 10 ^ d.scale = 0
  · have whole : d.mantissa = d.mantissa / 10 ^ d.scale * 10 ^ d.scale :=
      (Nat.div_mul_cancel (Nat.dvd_of_mod_eq_zero fraction)).symm
    rw [isKept_iff_of_whole whole]
    refine ⟨d.mantissa / 10 ^ d.scale, 0, ?_, by rw [pow_zero, mul_one]⟩
    exact (Nat.div_le_self _ _).trans_lt (digits.trans (by norm_num))
  · have nonzero : 0 < d.mantissa :=
      (Nat.pos_of_ne_zero fraction).trans_le (Nat.mod_le _ _)
    exact (toDouble_isCloseTo digits fraction fine places).read digits nonzero
      (Nat.pos_of_ne_zero (scale_ne_zero fraction))

end Fraction

end RecordFilter.Decimal
