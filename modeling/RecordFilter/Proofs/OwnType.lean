import RecordFilter.Expr.Eval
import RecordFilter.Proofs.RoundTrip

set_option autoImplicit false

/-!
A conversion to the type a number already has. Integers and floats stay what they are. A decimal is
read as a double and back even then, so that only decimals which a double can carry are sure to keep
their value.
-/

namespace RecordFilter

namespace Decimal

/-- Decimals that a double carries over: whole numbers of up to 53 binary digits before the zeros,
and numbers of up to fifteen decimal digits, of which those in a coarse range have to be doubles. -/
inductive IsCarried (d : Decimal) : Prop where
  | whole (k e : Nat) (digits : k < 2 ^ 53) (isWhole : d.mantissa = k * 2 ^ e * 10 ^ d.scale)
  | short (digits : d.mantissa < 10 ^ 15)
    (fine : IsCoarse d.absRat → Binary.rounded .double d.absRat = d.absRat)
    (places : d.scale ≤ 22 ∨ d.absRat < 2 / 10 ^ 13)

variable {d e : Decimal}

theorem IsCarried.isKept (carried : d.IsCarried) : d.IsKept := by
  cases carried with
  | whole k e digits isWhole => exact (isKept_iff_of_whole isWhole).mpr ⟨k, e, digits, rfl⟩
  | short digits fine places => exact isKept_of_fifteen digits fine places

/-- What is carried over depends on the number; more places are no help. -/
theorem IsCarried.of_absRat (carried : d.IsCarried) (same : e.absRat = d.absRat)
    (fewer : e.scale ≤ d.scale) : e.IsCarried := by
  obtain ⟨zeros, place⟩ : ∃ zeros, d.scale = e.scale + zeros := ⟨d.scale - e.scale, by omega⟩
  have mantissa := mantissa_of_absRat same place
  cases carried with
  | whole k n digits isWhole =>
      refine .whole k n digits (Nat.eq_of_mul_eq_mul_right (by positivity : 0 < 10 ^ zeros) ?_)
      rw [← mantissa, isWhole, place, pow_add, Nat.mul_assoc _ (10 ^ e.scale)]
  | short digits fine places =>
      refine .short ?_ ?_ ?_
      · exact (mantissa ▸ Nat.le_mul_of_pos_right e.mantissa (by positivity)).trans_lt digits
      · rwa [same]
      · rw [same]
        exact places.imp fewer.trans id

end Decimal

namespace Number

theorem convert_self {n : Number} (other : n.type ≠ .decimal) : n.convert n.type = some n := by
  cases n with
  | integer t value => rw [type, convert, IntegerType.ofInt?_value, Option.map_some]
  | float t value => rw [type, convert, Binary.cast, dif_pos rfl]
  | decimal value => exact absurd rfl other

theorem type_of_convert {n m : Number} {t : NumericType} (found : n.convert t = some m) :
    m.type = t := by
  cases n with
  | integer s value =>
      cases t with
      | float u =>
          cases found
          rfl
      | _ =>
          obtain ⟨_, _, rfl⟩ := Option.map_eq_some_iff.mp found
          rfl
  | float s value =>
      cases t with
      | integer u =>
          obtain ⟨whole, _, found⟩ := Option.bind_eq_some_iff.mp found
          obtain ⟨_, _, found⟩ := Option.bind_eq_some_iff.mp found
          cases found
          rfl
      | float u =>
          cases found
          rfl
      | decimal =>
          obtain ⟨_, _, rfl⟩ := Option.map_eq_some_iff.mp found
          rfl
  | decimal value =>
      cases t with
      | integer u =>
          rw [convert] at found
          split at found
          · cases found
          · obtain ⟨_, _, rfl⟩ := Option.map_eq_some_iff.mp found
            rfl
      | float u =>
          cases found
          rfl
      | decimal =>
          obtain ⟨_, _, rfl⟩ := Option.map_eq_some_iff.mp found
          rfl

end Number

namespace Value

theorem equal_decimal_iff {d e : Decimal} :
    (number (.decimal d)).equal (number (.decimal e)) = true ↔ d.toRat = e.toRat := by
  have kinds : (number (.decimal d)).kind = .number .decimal ∧
      (number (.decimal e)).kind = .number .decimal := ⟨rfl, rfl⟩
  exact satisfies_exact kinds rfl rfl .equal

theorem widen_self {value : Value} {t : NumericType} (isType : value.numericType? = some t)
    (other : t ≠ .decimal) : value.widen t = some value := by
  cases value with
  | number n =>
      cases isType
      rw [widen, Number.convert_self other, Option.map_some]
  | _ => cases isType

theorem widen_widened {value result : Value} {t : NumericType} (found : value.widen t = some result)
    (other : t ≠ .decimal) : result.widen t = some result := by
  cases value with
  | null =>
      cases found
      rfl
  | number n =>
      obtain ⟨m, converted, rfl⟩ := Option.map_eq_some_iff.mp found
      exact widen_self (congrArg some (Number.type_of_convert converted)) other
  | _ => cases found

theorem widen_decimal_eq_some_iff {d : Decimal} {result : Value} :
    (number (.decimal d)).widen .decimal = some result ↔
      ∃ e, Decimal.ofDouble? d.toDouble = some e ∧ number (.decimal e) = result := by
  rw [widen, Number.convert, Option.map_map, Option.map_eq_some_iff]
  rfl

/-- A decimal that a double carries over becomes an equal one, of which the same holds. -/
theorem widen_carried {d : Decimal} (carried : d.IsCarried) :
    ∃ e, (number (.decimal d)).widen .decimal = some (number (.decimal e)) ∧
      (number (.decimal e)).equal (number (.decimal d)) = true ∧ e.IsCarried := by
  obtain ⟨e, read, same, fewer⟩ := carried.isKept
  refine ⟨e, widen_decimal_eq_some_iff.mpr ⟨e, read, rfl⟩, equal_decimal_iff.mpr same,
    carried.of_absRat ?_ fewer⟩
  rw [← Decimal.abs_toRat, same, Decimal.abs_toRat]

/-- Which whole decimals become equal ones. -/
theorem widen_whole_iff {d : Decimal} {n : Nat} (whole : d.mantissa = n * 10 ^ d.scale) :
    (∃ result, (number (.decimal d)).widen .decimal = some result ∧
      result.equal (number (.decimal d)) = true) ↔ ∃ k e : Nat, k < 2 ^ 53 ∧ n = k * 2 ^ e := by
  rw [← Decimal.isKept_iff_of_whole whole]
  constructor
  · rintro ⟨result, found, same⟩
    obtain ⟨e, read, rfl⟩ := widen_decimal_eq_some_iff.mp found
    refine ⟨e, read, equal_decimal_iff.mp same, ?_⟩
    rw [Decimal.scale_of_whole whole read]
    exact Nat.zero_le _
  · rintro ⟨e, read, same, _⟩
    exact ⟨_, widen_decimal_eq_some_iff.mpr ⟨e, read, rfl⟩, equal_decimal_iff.mpr same⟩

end Value

namespace Expr

variable {entity : Record} {filter : Option Record} {operand : Expr} {t : NumericType}

theorem eval_convert_self (other : t ≠ .decimal)
    (isType : (operand.eval entity filter).numericType? = some t) :
    (convert operand t).eval entity filter = operand.eval entity filter := by
  rw [eval, Value.widen_self isType other, Option.getD_some]

theorem eval_convert_convert (other : t ≠ .decimal) :
    (convert (convert operand t) t).eval entity filter =
      (convert operand t).eval entity filter := by
  simp only [eval]
  cases found : (operand.eval entity filter).widen t with
  | none => rfl
  | some result => rw [Option.getD_some, Value.widen_widened found other, Option.getD_some]

/-- A conversion of a decimal that is carried over has an equal one as its value. -/
theorem eval_convert_carried {d : Decimal}
    (isDecimal : operand.eval entity filter = .number (.decimal d)) (carried : d.IsCarried) :
    ∃ e, (convert operand .decimal).eval entity filter = .number (.decimal e) ∧
      (Value.number (.decimal e)).equal (.number (.decimal d)) = true ∧ e.IsCarried := by
  obtain ⟨e, found, same, further⟩ := Value.widen_carried carried
  exact ⟨e, by rw [eval, isDecimal, found, Option.getD_some], same, further⟩

end Expr

/-- Nulls and numbers that are no decimals are unchanged by a conversion to their own type, and
what such a conversion gave is unchanged by another one. Of decimals this is so when a double
carries them over; the whole ones that keep their value are exactly those of up to 53 binary
digits. -/
theorem conversion_to_own_type_keeps_values (entity : Record) (filter : Option Record)
    (operand : Expr) :
    (∀ n : Number, n.type ≠ .decimal → (Value.number n).widen n.type = some (.number n)) ∧
    (∀ t : NumericType,
      ((operand.eval entity filter).isNull = true →
        (Expr.convert operand t).eval entity filter = operand.eval entity filter) ∧
      (t ≠ .decimal → (operand.eval entity filter).numericType? = some t →
        (Expr.convert operand t).eval entity filter = operand.eval entity filter) ∧
      (t ≠ .decimal → (Expr.convert (.convert operand t) t).eval entity filter =
        (Expr.convert operand t).eval entity filter)) ∧
    (∀ d : Decimal, d.IsCarried →
      ∃ result, (Value.number (.decimal d)).widen .decimal = some result ∧
        result.equal (.number (.decimal d)) = true) ∧
    (∀ d : Decimal, operand.eval entity filter = .number (.decimal d) → d.IsCarried →
      ((Expr.convert operand .decimal).eval entity filter).equal
        (operand.eval entity filter) = true ∧
      ((Expr.convert (.convert operand .decimal) .decimal).eval entity filter).equal
        ((Expr.convert operand .decimal).eval entity filter) = true) ∧
    (∀ (d : Decimal) (n : Nat), d.mantissa = n * 10 ^ d.scale →
      ((∃ result, (Value.number (.decimal d)).widen .decimal = some result ∧
        result.equal (.number (.decimal d)) = true) ↔
          ∃ k e : Nat, k < 2 ^ 53 ∧ n = k * 2 ^ e)) := by
  refine ⟨?_, ?_, ?_, ?_, ?_⟩
  · intro n other
    exact Value.widen_self rfl other
  · intro t
    refine ⟨?_, Expr.eval_convert_self, Expr.eval_convert_convert⟩
    intro isNull
    rw [Expr.eval, Value.eq_null_of_isNull isNull]
    rfl
  · intro d carried
    obtain ⟨e, found, same, _⟩ := Value.widen_carried carried
    exact ⟨_, found, same⟩
  · intro d isDecimal carried
    obtain ⟨once, isOnce, sameOnce, carriedOnce⟩ := Expr.eval_convert_carried isDecimal carried
    obtain ⟨twice, isTwice, sameTwice, _⟩ := Expr.eval_convert_carried isOnce carriedOnce
    rw [isDecimal, isOnce, isTwice]
    exact ⟨sameOnce, sameTwice⟩
  · intro d n whole
    exact Value.widen_whole_iff whole

/-- A price of 19.99. -/
def price : Decimal := ⟨false, 1999, 2, by decide, by decide⟩

theorem price_isCarried : price.IsCarried := by
  refine .short (by decide) (fun coarse => ?_) (Or.inl (by decide))
  obtain ⟨c, few, large, _⟩ := coarse
  rw [Decimal.absRat, price] at large
  interval_cases c <;> norm_num at large

/-- The largest whole decimal that is a double. -/
def largestDouble : Decimal := ⟨false, (2 ^ 53 - 1) * 2 ^ 43, 0, by decide, by decide⟩

def noNumber : Number := .float .double (.nan .double)

def articleShape : Shape :=
  ⟨"Article", [⟨"Price", .numeric .decimal⟩, ⟨"Rating", .numeric .f64⟩], by decide⟩

/-- An article nobody has rated yet. -/
def article : Record := ⟨articleShape, [.number (.decimal price), .number noNumber], rfl⟩

theorem conversion_to_own_type_keeps_values_article :
    noNumber.type ≠ .decimal ∧
      (Value.number noNumber).widen .f64 = some (.number noNumber) ∧
      ((Expr.field 1).eval article none).numericType? = some .f64 ∧
      (Expr.convert (.field 1) .f64).eval article none = (Expr.field 1).eval article none ∧
      ((Expr.filterField 0).eval article none).isNull = true ∧
      (Expr.convert (.filterField 0) .f64).eval article none = .null ∧
      (Expr.field 0).eval article none = .number (.decimal price) ∧ price.IsCarried ∧
      (∃ result, (Value.number (.decimal price)).widen .decimal = some result ∧
        result.equal (.number (.decimal price)) = true) ∧
      ((Expr.convert (.field 0) .decimal).eval article none).equal
        ((Expr.field 0).eval article none) = true ∧
      largestDouble.mantissa = (2 ^ 53 - 1) * 2 ^ 43 * 10 ^ largestDouble.scale ∧
      ∃ result, (Value.number (.decimal largestDouble)).widen .decimal = some result ∧
        result.equal (.number (.decimal largestDouble)) = true := by
  obtain ⟨numbers, ratings, decimals, _, wholes⟩ :=
    conversion_to_own_type_keeps_values article none (.field 1)
  obtain ⟨_, absents, _⟩ := conversion_to_own_type_keeps_values article none (.filterField 0)
  obtain ⟨_, _, _, prices, _⟩ := conversion_to_own_type_keeps_values article none (.field 0)
  exact ⟨nofun, numbers noNumber nofun, rfl, (ratings .f64).2.1 nofun rfl, rfl,
    (absents .f64).1 rfl, rfl, price_isCarried, decimals price price_isCarried,
    (prices price rfl price_isCarried).1, rfl,
    (wholes largestDouble _ rfl).mpr ⟨2 ^ 53 - 1, 43, by norm_num, rfl⟩⟩

/-- The first whole decimal that is no double. -/
def firstBetween : Decimal := ⟨false, 2 ^ 53 + 1, 0, by decide, by decide⟩

/-- A decimal of more digits than are read from a double. -/
def longFraction : Decimal := ⟨false, 41625957978452262593124865, 24, by decide, by decide⟩

/-- Not every decimal is carried over: a conversion to its own type may change it, and a second
one may change it again. -/
theorem conversion_to_own_type_changes_decimals :
    (∃ e, (Value.number (.decimal firstBetween)).widen .decimal = some (.number (.decimal e)) ∧
      (Value.number (.decimal e)).equal (.number (.decimal firstBetween)) = false) ∧
    ∃ once twice, (Value.number (.decimal longFraction)).widen .decimal =
        some (.number (.decimal once)) ∧
      (Value.number (.decimal once)).widen .decimal = some (.number (.decimal twice)) ∧
      (Value.number (.decimal twice)).equal (.number (.decimal once)) = false := by
  refine ⟨⟨⟨false, 2 ^ 53, 0, by decide, by decide⟩, ?_, by decide⟩,
    ⟨false, 4162595797845226, 14, by decide, by decide⟩,
    ⟨false, 4162595797845227, 14, by decide, by decide⟩, ?_, ?_, by decide⟩
  · exact Value.widen_decimal_eq_some_iff.mpr ⟨_, by decide +kernel, rfl⟩
  · exact Value.widen_decimal_eq_some_iff.mpr ⟨_, by decide +kernel, rfl⟩
  · exact Value.widen_decimal_eq_some_iff.mpr ⟨_, by decide +kernel, rfl⟩

end RecordFilter
