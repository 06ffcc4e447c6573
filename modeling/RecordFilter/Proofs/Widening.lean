import RecordFilter.Value.Basic

set_option autoImplicit false

/-!
Widening never fails. The common type of two numeric types is either a type itself or one it
widens to, and every number has a conversion to each type its own type widens to: an integer keeps
its value, and a float that is not a number remains one.
-/

namespace RecordFilter

namespace Width

theorem left_le_max (a b : Width) : a.bits ≤ (a.max b).bits := by
  unfold max
  split <;> omega

theorem right_le_max (a b : Width) : b.bits ≤ (a.max b).bits := by
  unfold max
  split <;> omega

theorem bits_lt_of_next {a b : Width} (next : a.next? = some b) : a.bits < b.bits := by
  cases a <;> cases next <;> decide

end Width

namespace IntegerType

/-- The values of one type are values of another. -/
structure Within (a b : IntegerType) : Prop where
  min_le : b.min ≤ a.min
  max_le : a.max ≤ b.max

theorem within_of_bits_le {a b : IntegerType} (signed : a.signed = b.signed)
    (narrower : a.bits ≤ b.bits) : a.Within b := by
  have power : Nat.pow 2 a.bits ≤ Nat.pow 2 b.bits :=
    Nat.pow_le_pow_right (by decide) narrower
  have half : Nat.pow 2 (a.bits - 1) ≤ Nat.pow 2 (b.bits - 1) :=
    Nat.pow_le_pow_right (by decide) (by omega)
  constructor
  · simp only [min, signed]
    split <;> omega
  · simp only [max, signed]
    split <;> omega

/-- A signed type needs one more bit to hold the values of an unsigned one. -/
theorem within_of_bits_lt {a b : IntegerType} (unsigned : a.signed = false)
    (signed : b.signed = true) (narrower : a.bits < b.bits) : a.Within b := by
  have power : Nat.pow 2 a.bits ≤ Nat.pow 2 (b.bits - 1) :=
    Nat.pow_le_pow_right (by decide) (by omega)
  constructor
  · simp only [min, unsigned, signed, Bool.false_eq_true, ↓reduceIte]
    omega
  · simp only [max, unsigned, signed, Bool.false_eq_true, ↓reduceIte]
    omega

theorem signedCommon?_within {s u : Width} {common : IntegerType}
    (found : signedCommon? s u = some common) :
    (⟨true, s⟩ : IntegerType).Within common ∧ (⟨false, u⟩ : IntegerType).Within common := by
  unfold signedCommon? at found
  split at found
  · rename_i narrower
    cases found
    exact ⟨within_of_bits_le rfl (Nat.le_refl _), within_of_bits_lt rfl rfl narrower⟩
  · rename_i wider
    obtain ⟨next, isNext, rfl⟩ := Option.map_eq_some_iff.mp found
    have above := Width.bits_lt_of_next isNext
    exact ⟨within_of_bits_le rfl (show s.bits ≤ next.bits by omega),
      within_of_bits_lt rfl rfl above⟩

/-- The common type of two integer types holds the values of both. -/
theorem common?_within {a b common : IntegerType} (found : a.common? b = some common) :
    a.Within common ∧ b.Within common := by
  obtain ⟨aSigned, aWidth⟩ := a
  obtain ⟨bSigned, bWidth⟩ := b
  cases aSigned <;> cases bSigned
  · cases found
    exact ⟨within_of_bits_le rfl (aWidth.left_le_max bWidth),
      within_of_bits_le rfl (aWidth.right_le_max bWidth)⟩
  · exact (signedCommon?_within found).symm
  · exact signedCommon?_within found
  · cases found
    exact ⟨within_of_bits_le rfl (aWidth.left_le_max bWidth),
      within_of_bits_le rfl (aWidth.right_le_max bWidth)⟩

theorem ofInt?_of_within {a b : IntegerType} (within : a.Within b) (n : FixedInt a) :
    ∃ m : FixedInt b, b.ofInt? n.value = some m ∧ m.value = n.value := by
  have lower := Int.le_trans within.min_le n.min_le
  have upper := Int.le_trans n.le_max within.max_le
  exact ⟨⟨n.value, lower, upper⟩, by simp only [ofInt?, lower, upper, and_self, ↓reduceDIte], rfl⟩

end IntegerType

namespace FixedInt

/-- No integer type is so wide that a decimal could not hold its values. -/
theorem natAbs_lt_mantissaLimit {t : IntegerType} (n : FixedInt t) :
    n.value.natAbs < Decimal.mantissaLimit := by
  have lower : -(2 ^ 64 : Int) ≤ t.min := by
    rcases t with ⟨_ | _, _ | _ | _ | _⟩ <;> decide
  have upper : t.max ≤ 2 ^ 64 := by
    rcases t with ⟨_ | _, _ | _ | _ | _⟩ <;> decide
  have limit : 2 ^ 64 < Decimal.mantissaLimit := by decide
  have := n.min_le
  have := n.le_max
  omega

end FixedInt

namespace Binary

variable {t : FloatType}

theorem isNaN_eq_false_iff (x : Binary t) : x.isNaN = false ↔ x.magnitude ≤ t.infinite := by
  simp [isNaN]

theorem isNaN_nearest (negative : Bool) (q : Rat) : (nearest t negative q).isNaN = false := by
  rw [isNaN_eq_false_iff]
  exact Nat.min_le_right _ _

theorem isNaN_nan (u : FloatType) : (nan u).isNaN = true := by
  simp [isNaN, nan]

theorem isNaN_infinite (negative : Bool) (u : FloatType) :
    (⟨negative, u.infinite, u.infinite_lt⟩ : Binary u).isNaN = false := by
  simp [isNaN]

theorem isNaN_ofInt (n : Int) : (ofInt t n).isNaN = false := isNaN_nearest _ _

/-- A float that is not a number stays so in another type, and no other float becomes one. -/
theorem isNaN_cast (x : Binary t) (u : FloatType) : (x.cast u).isNaN = x.isNaN := by
  unfold cast
  split
  · rename_i same
    subst same
    rfl
  · split
    · rename_i notNumber
      rw [isNaN_nan, notNumber]
    · rename_i number
      rw [Bool.not_eq_true] at number
      split
      · rw [isNaN_nearest, number]
      · rw [isNaN_infinite, number]

theorem compare?_isSome_iff {u : FloatType} (x : Binary t) (y : Binary u) :
    (x.compare? y).isSome ↔ x.isNaN = false ∧ y.isNaN = false := by
  unfold compare?
  cases x.isNaN <;> cases y.isNaN <;> simp

end Binary

namespace NumericType

/-- What a numeric type may be converted to when it meets one it differs from. -/
inductive Widens : NumericType → NumericType → Prop where
  | integers {a b : IntegerType} (within : a.Within b) : Widens (integer a) (integer b)
  | integerToFloat (a : IntegerType) (t : FloatType) : Widens (integer a) (float t)
  | integerToDecimal (a : IntegerType) : Widens (integer a) decimal
  | singleToDouble : Widens f32 f64

/-- The common type of two numeric types is, for each of them, itself or a wider type. In
particular no decimal is ever converted. -/
theorem common?_widens {a b common : NumericType} (found : a.common? b = some common) :
    (a = common ∨ a.Widens common) ∧ (b = common ∨ b.Widens common) := by
  cases a with
  | integer s =>
      cases b with
      | integer t =>
          obtain ⟨c, isCommon, rfl⟩ := Option.map_eq_some_iff.mp found
          have within := IntegerType.common?_within isCommon
          exact ⟨Or.inr (.integers within.1), Or.inr (.integers within.2)⟩
      | float t =>
          cases found
          exact ⟨Or.inr (.integerToFloat s t), Or.inl rfl⟩
      | decimal =>
          cases found
          exact ⟨Or.inr (.integerToDecimal s), Or.inl rfl⟩
  | float s =>
      cases b with
      | integer t =>
          cases found
          exact ⟨Or.inl rfl, Or.inr (.integerToFloat t s)⟩
      | float t =>
          cases s <;> cases t <;> cases found
          · exact ⟨Or.inl rfl, Or.inl rfl⟩
          · exact ⟨Or.inr .singleToDouble, Or.inl rfl⟩
          · exact ⟨Or.inl rfl, Or.inr .singleToDouble⟩
          · exact ⟨Or.inl rfl, Or.inl rfl⟩
      | decimal => cases found
  | decimal =>
      cases b with
      | integer t =>
          cases found
          exact ⟨Or.inl rfl, Or.inr (.integerToDecimal t)⟩
      | float t => cases found
      | decimal =>
          cases found
          exact ⟨Or.inl rfl, Or.inl rfl⟩

end NumericType

namespace Number

/-- Whether the number is a float that is not a number. -/
def isNaN : Number → Bool
  | float _ x => x.isNaN
  | _ => false

theorem convert_of_widens {n : Number} {target : NumericType} (widens : n.type.Widens target) :
    ∃ m : Number, n.convert target = some m ∧ m.type = target ∧ m.isNaN = n.isNaN := by
  cases n with
  | integer t value =>
      cases widens with
      | integers within =>
          obtain ⟨wider, found, _⟩ := IntegerType.ofInt?_of_within within value
          exact ⟨integer _ wider, by rw [convert, found, Option.map_some], rfl, rfl⟩
      | integerToFloat _ u =>
          exact ⟨float u (.ofInt u value.value), rfl, rfl, Binary.isNaN_ofInt _⟩
      | integerToDecimal =>
          have fits : Decimal.ofInt? value.value = some ⟨value.value < 0, value.value.natAbs, 0,
              value.natAbs_lt_mantissaLimit, Nat.zero_le _⟩ := by
            simp [Decimal.ofInt?, Decimal.ofParts?, value.natAbs_lt_mantissaLimit]
          exact ⟨decimal _, by rw [convert, fits, Option.map_some], rfl, rfl⟩
  | float t value =>
      cases widens
      exact ⟨float .double (value.cast .double), rfl, rfl, value.isNaN_cast .double⟩
  | decimal value => cases widens

theorem equals?_isSome_iff (a b : Number) : (a.equals? b).isSome ↔ a.type = b.type := by
  by_cases same : a.type = b.type
  · rw [equals?, if_pos same]
    exact iff_of_true rfl same
  · rw [equals?, if_neg same]
    exact iff_of_false Bool.false_ne_true same

theorem compare?_isSome_iff {a b : Number} (same : a.type = b.type) :
    (a.compare? b).isSome ↔ a.isNaN = false ∧ b.isNaN = false := by
  cases a with
  | integer t m =>
      cases b with
      | integer u n =>
          obtain rfl : t = u := NumericType.integer.inj same
          rw [compare?, if_pos rfl]
          exact iff_of_true rfl ⟨rfl, rfl⟩
      | _ => cases same
  | float t x =>
      cases b with
      | float u y =>
          obtain rfl : t = u := NumericType.float.inj same
          rw [compare?, if_pos rfl]
          exact Binary.compare?_isSome_iff x y
      | _ => cases same
  | decimal d =>
      cases b with
      | decimal e => exact iff_of_true rfl ⟨rfl, rfl⟩
      | _ => cases same

end Number

end RecordFilter
