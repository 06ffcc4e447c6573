import Mathlib.Algebra.Order.Archimedean.Basic
import Mathlib.Algebra.Order.Field.Power
import Mathlib.Data.Rat.Floor
import Mathlib.Tactic.FieldSimp
import Mathlib.Tactic.Linarith
import Mathlib.Tactic.NormNum
import Mathlib.Tactic.Positivity
import Mathlib.Tactic.Ring
import RecordFilter.Numeric.Binary

set_option autoImplicit false

/-!
What rounding to a float does to a rational. The float has a fixed number of binary digits, so what
is rounded away is at most half of its last digit; a rational with no more digits than that is kept.
-/

namespace RecordFilter

theorem twoPow_eq_zpow (e : Int) : twoPow e = 2 ^ e := by
  unfold twoPow
  split
  · rename_i natural
    obtain ⟨n, rfl⟩ := Int.eq_ofNat_of_zero_le natural
    simp
  · obtain ⟨n, rfl⟩ : ∃ n : Nat, e = -n := ⟨e.natAbs, by omega⟩
    simp [zpow_neg]

/-- The leading binary digit of a positive rational. -/
theorem binaryOrder_spec {q : Rat} (positive : 0 < q) :
    (2 : Rat) ^ binaryOrder q ≤ q ∧ q < 2 ^ (binaryOrder q + 1) := by
  obtain ⟨n, isNum⟩ := Int.eq_ofNat_of_zero_le (Rat.num_nonneg.mpr positive.le)
  have product : q * q.den = n := by
    rw [Rat.mul_den_eq_num, isNum, Int.cast_natCast]
  have denPositive : (0 : Rat) < q.den := by exact_mod_cast q.den_pos
  have numPositive : n ≠ 0 := by
    rintro rfl
    exact (mul_pos positive denPositive).ne' (by rw [product, Nat.cast_zero])
  have numLower : (2 : Rat) ^ n.log2 ≤ n := by exact_mod_cast Nat.log2_self_le numPositive
  have numUpper : (n : Rat) < 2 ^ n.log2 * 2 := by
    rw [← pow_succ]
    exact_mod_cast Nat.lt_log2_self
  have denLower : (2 : Rat) ^ q.den.log2 ≤ q.den := by exact_mod_cast Nat.log2_self_le q.den_nz
  have denUpper : (q.den : Rat) < 2 ^ q.den.log2 * 2 := by
    rw [← pow_succ]
    exact_mod_cast Nat.lt_log2_self
  have estimate : (2 : Rat) ^ ((n.log2 : Int) - q.den.log2) = 2 ^ n.log2 / 2 ^ q.den.log2 := by
    rw [zpow_sub₀ (by norm_num), zpow_natCast, zpow_natCast]
  have below : (2 : Rat) ^ ((n.log2 : Int) - q.den.log2) < 2 * q := by
    rw [estimate, div_lt_iff₀ (by positivity)]
    calc (2 : Rat) ^ n.log2 ≤ q * q.den := product ▸ numLower
      _ < q * (2 ^ q.den.log2 * 2) := by gcongr
      _ = 2 * q * 2 ^ q.den.log2 := by ring
  have above : q < 2 ^ ((n.log2 : Int) - q.den.log2) * 2 := by
    rw [estimate, div_mul_eq_mul_div, lt_div_iff₀ (by positivity)]
    calc q * 2 ^ q.den.log2 ≤ q * q.den := by gcongr
      _ < 2 ^ n.log2 * 2 := product ▸ numUpper
  simp only [binaryOrder, isNum, Int.toNat_natCast, twoPow_eq_zpow]
  split
  · rename_i reached
    exact ⟨reached, by rw [zpow_add_one₀ (by norm_num)]; exact above⟩
  · rename_i missed
    rw [sub_add_cancel, zpow_sub_one₀ (by norm_num)]
    exact ⟨by linarith, not_le.mp missed⟩

theorem binaryOrder_lt {q : Rat} {k : Int} (positive : 0 < q) (small : q < 2 ^ k) :
    binaryOrder q < k :=
  (zpow_lt_zpow_iff_right₀ (by norm_num : (1 : Rat) < 2)).mp
    ((binaryOrder_spec positive).1.trans_lt small)

theorem le_binaryOrder {q : Rat} {k : Int} (large : 2 ^ k ≤ q) : k ≤ binaryOrder q := by
  have positive : 0 < q := lt_of_lt_of_le (by positivity) large
  have := (zpow_lt_zpow_iff_right₀ (by norm_num : (1 : Rat) < 2)).mp
    (large.trans_lt (binaryOrder_spec positive).2)
  omega

section RoundHalfEven

variable {q : Rat}

/-- Rounding starts from the whole part, which leaves less than one. -/
theorem floor_toNat_spec (natural : 0 ≤ q) :
    (q.floor.toNat : Rat) ≤ q ∧ q < q.floor.toNat + 1 := by
  have whole : (q.floor.toNat : Rat) = ⌊q⌋ := by
    exact_mod_cast Int.toNat_of_nonneg (Int.floor_nonneg.mpr natural)
  rw [whole]
  exact ⟨Int.floor_le q, Int.lt_floor_add_one q⟩

theorem roundHalfEven_near (natural : 0 ≤ q) : |(roundHalfEven q : Rat) - q| ≤ 1 / 2 := by
  obtain ⟨below, above⟩ := floor_toNat_spec natural
  have parity : ((q.floor.toNat % 2 : Nat) : Rat) ≤ 1 := by exact_mod_cast (by omega)
  have parityNatural : (0 : Rat) ≤ (q.floor.toNat % 2 : Nat) := Nat.cast_nonneg _
  unfold roundHalfEven
  dsimp only
  split_ifs <;> push_cast at * <;> rw [abs_le] <;> constructor <;> linarith

theorem roundHalfEven_natCast (n : Nat) : roundHalfEven n = n := by
  have whole : (n : Rat).floor.toNat = n := by
    change ⌊(n : Rat)⌋.toNat = n
    rw [Int.floor_natCast, Int.toNat_natCast]
  simp [roundHalfEven, whole]

theorem roundHalfEven_bounds :
    q.floor.toNat ≤ roundHalfEven q ∧ roundHalfEven q ≤ q.floor.toNat + 1 := by
  unfold roundHalfEven
  dsimp only
  split_ifs <;> omega

/-- Rounding does not cross a natural number. -/
theorem roundHalfEven_le {n : Nat} (natural : 0 ≤ q) (below : q < n) : roundHalfEven q ≤ n := by
  have whole : q.floor.toNat < n := by
    exact_mod_cast (floor_toNat_spec natural).1.trans_lt below
  have := (roundHalfEven_bounds (q := q)).2
  omega

theorem le_roundHalfEven {n : Nat} (above : n ≤ q) : n ≤ roundHalfEven q := by
  have whole : n < q.floor.toNat + 1 := by
    exact_mod_cast above.trans_lt (floor_toNat_spec ((Nat.cast_nonneg n).trans above)).2
  have := (roundHalfEven_bounds (q := q)).1
  omega

end RoundHalfEven

namespace FloatType

/-- Positive rationals below this power of two round to finite floats. -/
def limit (t : FloatType) : Rat := 2 ^ (Nat.pow 2 (t.exponentBits - 1) - 1)

/-- The exponent of the last digit to which a positive rational is rounded. -/
def unitOf (t : FloatType) (q : Rat) : Int := max t.leastUnit (binaryOrder q - t.fractionBits)

variable {t : FloatType} {q : Rat}

theorem leastUnit_eq (t : FloatType) :
    t.leastUnit = 2 - (Nat.pow 2 (t.exponentBits - 1) : Nat) - t.fractionBits := rfl

theorem infinite_eq (t : FloatType) :
    t.infinite = (2 * Nat.pow 2 (t.exponentBits - 1) - 1) * t.exponentBit := by
  cases t <;> rfl

theorem exponentBit_pos (t : FloatType) : 0 < t.exponentBit := Nat.two_pow_pos _

theorem exponentBit_cast (t : FloatType) : (t.exponentBit : Rat) = 2 ^ (t.fractionBits : Int) := by
  simp [exponentBit]

/-- The digits of a float fill the places from its unit to the leading one. -/
theorem digits_le (positive : 0 < q) :
    roundHalfEven (q / 2 ^ t.unitOf q) ≤ 2 * t.exponentBit := by
  apply roundHalfEven_le (by positivity)
  rw [div_lt_iff₀ (by positivity), Nat.cast_mul, exponentBit_cast]
  calc q < 2 ^ (binaryOrder q + 1) := (binaryOrder_spec positive).2
    _ ≤ 2 ^ (1 + (t.fractionBits : Int) + t.unitOf q) := by
        apply zpow_le_zpow_right₀ (by norm_num)
        unfold unitOf
        omega
    _ = _ := by
        rw [zpow_add₀ (by norm_num), zpow_add₀ (by norm_num)]
        norm_num

theorem le_digits (positive : 0 < q) (normal : t.unitOf q = binaryOrder q - t.fractionBits) :
    t.exponentBit ≤ roundHalfEven (q / 2 ^ t.unitOf q) := by
  apply le_roundHalfEven
  rw [le_div_iff₀ (by positivity), exponentBit_cast, ← zpow_add₀ (by norm_num), normal,
    add_sub_cancel]
  exact (binaryOrder_spec positive).1

end FloatType

namespace Binary

variable {t : FloatType} {q : Rat}

theorem significand_lt (x : Binary t) : x.significand < 2 * t.exponentBit := by
  have := Nat.mod_lt x.magnitude t.exponentBit_pos
  unfold significand
  split <;> omega

theorem leastUnit_le_unit (x : Binary t) : t.leastUnit ≤ x.unit := by
  unfold unit
  omega

theorem absRat_eq (x : Binary t) : x.absRat = x.significand * 2 ^ x.unit := by
  rw [absRat, twoPow_eq_zpow]

theorem absRat_nonneg (x : Binary t) : 0 ≤ x.absRat := by
  rw [absRat_eq]
  positivity

/-- A float that has more digits than its type consists of whole units. -/
theorem unit_nonneg {x : Binary t} (large : (2 * t.exponentBit : Nat) ≤ x.absRat) :
    0 ≤ x.unit := by
  by_contra fraction
  have digits : (x.significand : Rat) < (2 * t.exponentBit : Nat) := by
    exact_mod_cast x.significand_lt
  have part : (2 : Rat) ^ x.unit ≤ 1 := zpow_le_one_of_nonpos₀ (by norm_num) (by omega)
  have natural : (0 : Rat) ≤ x.significand := Nat.cast_nonneg _
  rw [absRat_eq] at large
  linarith [mul_le_mul_of_nonneg_left part natural]

theorem magnitude_eq_zero_iff (x : Binary t) : x.magnitude = 0 ↔ x.absRat = 0 := by
  have positive := t.exponentBit_pos
  have place : (2 : Rat) ^ x.unit ≠ 0 := by positivity
  have digits := Nat.div_add_mod x.magnitude t.exponentBit
  rw [absRat_eq, mul_eq_zero_iff_right place, Nat.cast_eq_zero, significand, exponentField,
    Nat.add_eq_zero_iff]
  constructor
  · intro zero
    simp [zero]
  · rintro ⟨field, rest⟩
    split at field
    · rename_i none
      rw [none, rest] at digits
      exact digits.symm
    · omega

/-- The exponent field counts the steps, the fraction field holds what is left. -/
theorem fields_of_magnitude {x : Binary t} {steps rest : Nat}
    (shape : x.magnitude = steps * t.exponentBit + rest) (isRest : rest < t.exponentBit) :
    x.exponentField = steps ∧ x.magnitude % t.exponentBit = rest := by
  rw [exponentField, shape, Nat.mul_comm]
  constructor
  · rw [Nat.mul_add_div t.exponentBit_pos, Nat.div_eq_of_lt isRest, Nat.add_zero]
  · rw [Nat.mul_add_mod, Nat.mod_eq_of_lt isRest]

/-- The digits of a float stand above as many steps as the exponent field counts. When they carry
into one more place the field counts one step more, and the number is the same. -/
theorem absRat_of_magnitude {x : Binary t} {steps digits : Nat}
    (shape : x.magnitude = steps * t.exponentBit + digits)
    (normal : steps = 0 ∨ t.exponentBit ≤ digits) (carries : digits ≤ 2 * t.exponentBit) :
    x.absRat = digits * 2 ^ (t.leastUnit + steps) := by
  have positive := t.exponentBit_pos
  rw [absRat_eq]
  by_cases subnormal : digits < t.exponentBit
  · obtain rfl := normal.resolve_right (not_le.mpr subnormal)
    obtain ⟨field, rest⟩ := fields_of_magnitude shape subnormal
    simp [significand, unit, field, rest]
  · by_cases carried : digits = 2 * t.exponentBit
    · have carriedShape : x.magnitude = (steps + 2) * t.exponentBit + 0 := by
        rw [shape, carried]
        ring
      obtain ⟨field, rest⟩ := fields_of_magnitude carriedShape positive
      have place : t.leastUnit + ((steps + 2 - 1 : Nat) : Int) = t.leastUnit + steps + 1 := by omega
      simp only [significand, unit, field, rest, place, carried, Nat.add_eq_zero_iff,
        OfNat.ofNat_ne_zero, and_false, ↓reduceIte, Nat.add_zero]
      rw [zpow_add_one₀ (by norm_num), Nat.cast_mul, Nat.cast_ofNat]
      ring
    · have normalShape : x.magnitude =
          (steps + 1) * t.exponentBit + (digits - t.exponentBit) := by
        rw [shape, Nat.add_mul]
        omega
      obtain ⟨field, rest⟩ := fields_of_magnitude normalShape (by omega)
      simp only [significand, unit, field, rest, Nat.add_eq_zero_iff, one_ne_zero, and_false,
        ↓reduceIte, Nat.add_sub_cancel, Nat.add_sub_cancel' (not_lt.mp subnormal)]

theorem magnitude_nearest (positive : 0 < q) (small : q < t.limit) (negative : Bool) :
    (nearest t negative q).magnitude =
      (t.unitOf q - t.leastUnit).toNat * t.exponentBit + roundHalfEven (q / 2 ^ t.unitOf q) ∧
    (nearest t negative q).magnitude < t.infinite := by
  have order : binaryOrder q < (Nat.pow 2 (t.exponentBits - 1) - 1 : Nat) :=
    binaryOrder_lt positive (by rw [zpow_natCast]; exact small)
  have steps : (t.unitOf q - t.leastUnit).toNat + 2 < 2 * Nat.pow 2 (t.exponentBits - 1) - 1 := by
    have : 4 ≤ Nat.pow 2 (t.exponentBits - 1) := by cases t <;> decide
    rw [FloatType.unitOf, FloatType.leastUnit_eq]
    omega
  have below : (t.unitOf q - t.leastUnit).toNat * t.exponentBit +
      roundHalfEven (q / 2 ^ t.unitOf q) < t.infinite := by
    calc _ ≤ ((t.unitOf q - t.leastUnit).toNat + 2) * t.exponentBit := by
            rw [Nat.add_mul]
            exact Nat.add_le_add_left (FloatType.digits_le positive) _
      _ < t.infinite := by
            rw [FloatType.infinite_eq]
            exact Nat.mul_lt_mul_of_pos_right steps t.exponentBit_pos
  have same : (nearest t negative q).magnitude =
      (t.unitOf q - t.leastUnit).toNat * t.exponentBit + roundHalfEven (q / 2 ^ t.unitOf q) := by
    simp only [nearest, positive.ne', ↓reduceIte, twoPow_eq_zpow]
    exact Nat.min_eq_left below.le
  exact ⟨same, same ▸ below⟩

/-- The nearest float has the digits of the rational down to its unit. -/
theorem absRat_nearest (positive : 0 < q) (small : q < t.limit) (negative : Bool) :
    (nearest t negative q).absRat = roundHalfEven (q / 2 ^ t.unitOf q) * 2 ^ t.unitOf q := by
  have least : t.leastUnit ≤ t.unitOf q := le_max_left _ _
  have normal : (t.unitOf q - t.leastUnit).toNat = 0 ∨
      t.exponentBit ≤ roundHalfEven (q / 2 ^ t.unitOf q) := by
    rcases max_choice t.leastUnit (binaryOrder q - t.fractionBits) with isLeast | isNormal
    · exact Or.inl (by rw [FloatType.unitOf, isLeast, sub_self, Int.toNat_zero])
    · exact Or.inr (FloatType.le_digits positive isNormal)
  rw [absRat_of_magnitude (magnitude_nearest positive small negative).1 normal
    (FloatType.digits_le positive), Int.toNat_of_nonneg (by omega), add_sub_cancel]

/-- Rounding is off by at most half of the last digit. -/
theorem nearest_near (positive : 0 < q) (small : q < t.limit) (negative : Bool) :
    |(nearest t negative q).absRat - q| ≤ 2 ^ t.unitOf q / 2 := by
  have digits := roundHalfEven_near (by positivity : 0 ≤ q / 2 ^ t.unitOf q)
  have place : (0 : Rat) < 2 ^ t.unitOf q := by positivity
  have split : (nearest t negative q).absRat - q =
      (roundHalfEven (q / 2 ^ t.unitOf q) - q / 2 ^ t.unitOf q) * 2 ^ t.unitOf q := by
    rw [absRat_nearest positive small, sub_mul, div_mul_cancel₀ _ place.ne']
  rw [split, abs_mul, abs_of_pos place]
  linarith [mul_le_mul_of_nonneg_right digits place.le]

theorem absRat_nearest_zero (negative : Bool) : (nearest t negative 0).absRat = 0 := by
  have zero : (nearest t negative 0).magnitude = 0 * t.exponentBit + 0 := by
    have none : roundHalfEven 0 = 0 := roundHalfEven_natCast 0
    simp [nearest, none]
  rw [absRat_of_magnitude zero (Or.inl rfl) (Nat.zero_le _), Nat.cast_zero, zero_mul]

theorem isFinite_nearest (natural : 0 ≤ q) (small : q < t.limit) (negative : Bool) :
    (nearest t negative q).isFinite = true := by
  apply decide_eq_true
  rcases natural.eq_or_lt with rfl | positive
  · rw [(magnitude_eq_zero_iff _).mpr (absRat_nearest_zero negative)]
    cases t <;> decide
  · exact (magnitude_nearest positive small negative).2

/-- A rational of no more digits than a float has is kept. -/
theorem absRat_nearest_of_digits {n : Nat} {e : Int} (isValue : q = n * 2 ^ e)
    (digits : n < 2 * t.exponentBit) (place : t.leastUnit ≤ e) (small : q < t.limit)
    (negative : Bool) : (nearest t negative q).absRat = q := by
  rcases Nat.eq_zero_or_pos n with rfl | nonzero
  · rw [isValue, Nat.cast_zero, zero_mul, absRat_nearest_zero]
  · have positive : 0 < q := by
      rw [isValue]
      positivity
    have order : binaryOrder q < 1 + t.fractionBits + e := by
      apply binaryOrder_lt positive
      rw [isValue, zpow_add₀ (by norm_num), zpow_add₀ (by norm_num), ← t.exponentBit_cast, zpow_one]
      gcongr
      exact_mod_cast digits
    obtain ⟨k, isPlace⟩ : ∃ k : Nat, e = t.unitOf q + k :=
      ⟨(e - t.unitOf q).toNat, by unfold FloatType.unitOf; omega⟩
    have whole : q / 2 ^ t.unitOf q = (n * 2 ^ k : Nat) := by
      rw [div_eq_iff (by positivity), Nat.cast_mul, Nat.cast_pow, Nat.cast_ofNat, mul_assoc,
        ← zpow_natCast, ← zpow_add₀ (by norm_num), Int.add_comm, ← isPlace, isValue]
    rw [absRat_nearest positive small, whole, roundHalfEven_natCast, ← whole,
      div_mul_cancel₀ _ (by positivity)]

/-- A float is nearest to itself. -/
theorem absRat_nearest_absRat (x : Binary t) (small : x.absRat < t.limit) (negative : Bool) :
    (nearest t negative x.absRat).absRat = x.absRat :=
  absRat_nearest_of_digits x.absRat_eq x.significand_lt x.leastUnit_le_unit small negative

/-- Rounding changes a rational by a small part of it, unless it lies below the normal floats. -/
theorem nearest_near_of_normal (normal : 2 ^ (t.leastUnit + t.fractionBits) ≤ q)
    (small : q < t.limit) (negative : Bool) :
    |(nearest t negative q).absRat - q| ≤ q / (2 * t.exponentBit) := by
  have positive : 0 < q := lt_of_lt_of_le (by positivity) normal
  have order := le_binaryOrder normal
  have unit : t.unitOf q = binaryOrder q - t.fractionBits := by
    unfold FloatType.unitOf
    omega
  calc _ ≤ 2 ^ t.unitOf q / 2 := nearest_near positive small negative
    _ = 2 ^ binaryOrder q / (2 * t.exponentBit) := by
        rw [unit, zpow_sub₀ (by norm_num), t.exponentBit_cast, div_div, mul_comm]
    _ ≤ q / (2 * t.exponentBit) := by
        gcongr
        exact (binaryOrder_spec positive).1

end Binary

end RecordFilter
