import Mathlib.Algebra.Order.Field.Rat
import Mathlib.Algebra.Order.Ring.Cast
import Mathlib.Tactic.NormNum
import RecordFilter.Proofs.Compatibility
import RecordFilter.Value.Match

set_option autoImplicit false

/-!
Integers and decimals are compared as numbers. Each of them stands for a rational, which no planned
conversion changes, and the operators relate two of the same type as they relate the rationals.
Floats are left out, since an integer may be rounded on its way to one.
-/

namespace RecordFilter

namespace CompareOp

/-- What an operator says of two numbers. -/
def Relates (op : CompareOp) (x y : Rat) : Prop :=
  match op with
  | equal => x = y
  | notEqual => x ≠ y
  | greaterThan => y < x
  | greaterOrEqual => y ≤ x
  | lessThan => x < y
  | lessOrEqual => x ≤ y

/-- Things that are ordered as two rationals are may be compared in their place. -/
theorem holds_compare_iff {α : Type} [LinearOrder α] (op : CompareOp) {m n : α} {x y : Rat}
    (less : m < n ↔ x < y) (greater : n < m ↔ y < x) :
    op.holds (compare m n) = true ↔ op.Relates x y := by
  rcases lt_trichotomy m n with below | same | above
  · have ordered := less.mp below
    rw [compare_lt_iff_lt.mpr below]
    cases op <;> simp [holds, Relates, ordered, ordered.le, ordered.ne, ordered.not_gt,
      ordered.not_ge]
  · have equal : x = y := by
      apply le_antisymm
      · exact not_lt.mp fun above => same.not_gt (greater.mpr above)
      · exact not_lt.mp fun below => same.not_lt (less.mpr below)
    rw [compare_eq_iff_eq.mpr same]
    cases op <;> simp [holds, Relates, equal]
  · have ordered := greater.mp above
    rw [compare_gt_iff_gt.mpr above]
    cases op <;> simp [holds, Relates, ordered, ordered.le, ordered.ne', ordered.not_gt,
      ordered.not_ge]

end CompareOp

namespace Decimal

/-- The number a decimal stands for. -/
def toRat (d : Decimal) : Rat := d.signed / 10 ^ d.scale

/-- Over the common denominator, decimals are ordered as their numbers are, whatever their
scales. -/
theorem scaled_lt_iff (a b : Decimal) :
    a.signed * Nat.pow 10 b.scale < b.signed * Nat.pow 10 a.scale ↔ a.toRat < b.toRat := by
  have positive : ∀ d : Decimal, (0 : Rat) < 10 ^ d.scale := fun d => pow_pos (by decide) _
  rw [toRat, toRat, div_lt_div_iff₀ (positive a) (positive b), ← @Int.cast_lt Rat]
  push_cast [Nat.pow_eq]
  rfl

theorem ofInt?_of_fixed {t : IntegerType} (n : FixedInt t) :
    ∃ d, ofInt? n.value = some d ∧ d.toRat = n.value := by
  have fits := n.natAbs_lt_mantissaLimit
  have isSigned : (⟨n.value < 0, n.value.natAbs, 0, fits, Nat.zero_le _⟩ : Decimal).signed =
      n.value := by
    simp only [signed, decide_eq_true_eq]
    split <;> omega
  refine ⟨⟨n.value < 0, n.value.natAbs, 0, fits, Nat.zero_le _⟩, ?_, ?_⟩
  · simp [ofInt?, ofParts?, fits]
  · rw [toRat, isSigned, pow_zero, div_one]

end Decimal

namespace NumericType

/-- Whether the numbers of the type are integers or decimals. -/
def isExact : NumericType → Bool
  | integer _ | decimal => true
  | float _ => false

theorem isExact_of_common? {a b common : NumericType} (found : a.common? b = some common)
    (left : a.isExact = true) (right : b.isExact = true) : common.isExact = true := by
  cases a with
  | integer s =>
      cases b with
      | integer t =>
          obtain ⟨c, _, rfl⟩ := Option.map_eq_some_iff.mp found
          rfl
      | float t => cases right
      | decimal =>
          cases found
          rfl
  | float s => cases left
  | decimal =>
      cases b with
      | float t => cases right
      | _ =>
          cases found
          rfl

end NumericType

namespace Number

/-- The rational an integer or a decimal stands for. -/
def rational? : Number → Option Rat
  | integer _ n => some n.value
  | float _ _ => none
  | decimal d => some d.toRat

theorem rational?_of_isExact {n : Number} (noFloat : n.type.isExact = true) :
    ∃ x, n.rational? = some x := by
  cases n with
  | float t value => cases noFloat
  | _ => exact ⟨_, rfl⟩

theorem convert_exact {n : Number} {target : NumericType} (widens : n.type.Widens target)
    (noFloat : target.isExact = true) :
    ∃ m : Number, n.convert target = some m ∧ m.type = target ∧ m.rational? = n.rational? := by
  cases n with
  | integer t value =>
      cases widens with
      | integers within =>
          obtain ⟨wider, found, same⟩ := IntegerType.ofInt?_of_within within value
          exact ⟨integer _ wider, by rw [convert, found, Option.map_some], rfl,
            by rw [rational?, rational?, same]⟩
      | integerToFloat => cases noFloat
      | integerToDecimal =>
          obtain ⟨d, found, same⟩ := Decimal.ofInt?_of_fixed value
          exact ⟨decimal d, by rw [convert, found, Option.map_some], rfl,
            by rw [rational?, rational?, same]⟩
  | float t value =>
      cases widens
      cases noFloat
  | decimal value => cases widens

theorem compare?_exact {a b : Number} {x y : Rat} (same : a.type = b.type)
    (left : a.rational? = some x) (right : b.rational? = some y) :
    ∃ order, a.compare? b = some order ∧
      ∀ op : CompareOp, op.holds order = true ↔ op.Relates x y := by
  cases a with
  | integer t m =>
      cases b with
      | integer u n =>
          cases same
          cases left
          cases right
          refine ⟨compare m.value n.value, if_pos rfl, ?_⟩
          intro op
          exact op.holds_compare_iff Int.cast_lt.symm Int.cast_lt.symm
      | _ => cases same
  | float t m => cases left
  | decimal m =>
      cases b with
      | decimal n =>
          cases left
          cases right
          refine ⟨m.compare n, rfl, ?_⟩
          intro op
          exact op.holds_compare_iff (m.scaled_lt_iff n) (n.scaled_lt_iff m)
      | _ => cases same

end Number

namespace Value

/-- The rational an integer or a decimal stands for. -/
def rational? : Value → Option Rat
  | number n => n.rational?
  | _ => none

/-- On numbers with an order, equality too is read off that order. -/
theorem satisfies_of_compare? {a b : Number} {order : Ordering} (same : a.type = b.type)
    (found : a.compare? b = some order) (op : CompareOp) :
    satisfies op (number a) (number b) = op.holds order := by
  cases op <;> cases order <;>
    simp [satisfies, equal, order?, isNull, equals?, compare?, Number.equals?, same, found,
      CompareOp.holds]

theorem satisfies_exact {a b : Value} {type : NumericType} {x y : Rat}
    (kinds : a.kind = .number type ∧ b.kind = .number type) (left : a.rational? = some x)
    (right : b.rational? = some y) (op : CompareOp) :
    satisfies op a b = true ↔ op.Relates x y := by
  obtain ⟨m, rfl, typeM⟩ := number_of_kind kinds.1
  obtain ⟨n, rfl, typeN⟩ := number_of_kind kinds.2
  have same : m.type = n.type := typeM.trans typeN.symm
  obtain ⟨order, found, related⟩ := Number.compare?_exact same left right
  rw [satisfies_of_compare? same found, related]

theorem rational?_of_kind {value : Value} {type : NumericType} (kind : value.kind = .number type)
    (noFloat : type.isExact = true) : ∃ x, value.rational? = some x := by
  obtain ⟨n, rfl, rfl⟩ := number_of_kind kind
  exact Number.rational?_of_isExact noFloat

theorem widenIf?_exact {value : Value} {type common : NumericType}
    (kind : value.kind = .number type) (reaches : type = common ∨ type.Widens common)
    (noFloat : common.isExact = true) :
    ∃ result, value.widenIf? (if type = common then none else some common) = some result ∧
      result.kind = .number common ∧ result.rational? = value.rational? := by
  by_cases same : type = common
  · rw [if_pos same]
    exact ⟨value, rfl, same ▸ kind, rfl⟩
  · rw [if_neg same]
    obtain ⟨n, rfl, rfl⟩ := number_of_kind kind
    obtain ⟨m, found, rfl, kept⟩ := Number.convert_exact (reaches.resolve_left same) noFloat
    exact ⟨number m, by rw [widenIf?, widen, found, Option.map_some], rfl, kept⟩

end Value

namespace ValueType

/-- Whether the values of the type are integers or decimals, and perhaps null. -/
def isExact (t : ValueType) : Bool := t.numeric?.any (·.isExact)

theorem underlying_of_isExact {t : ValueType} (noFloat : t.isExact = true) :
    ∃ type, t.underlying = numeric type ∧ type.isExact = true := by
  unfold isExact numeric? at noFloat
  split at noFloat
  · rename_i type same
    exact ⟨type, same, noFloat⟩
  · cases noFloat

/-- Where the types of an accepted comparison hold integers and decimals, both sides are brought to
one such type, which a side that already has it does not have to be converted to. -/
theorem common_of_comparisonPlan {entity filter : ValueType} {m n : NumericType} {op : CompareOp}
    {plan : ConversionPlan} (left : entity.underlying = numeric m)
    (right : filter.underlying = numeric n) (noFloat : m.isExact = true ∧ n.isExact = true)
    (accepted : entity.comparisonPlan filter op = .ok plan) :
    ∃ common : NumericType, common.isExact = true ∧
      (m = common ∨ m.Widens common) ∧ (n = common ∨ n.Widens common) ∧
      plan.entity = (if m = common then none else some common) ∧
      plan.filter = if n = common then none else some common := by
  rcases comparisonPlan_cases accepted with
    ⟨same, _, _, rfl⟩ | ⟨_, m', n', common, isM, isN, isCommon, rfl⟩
  · rw [left, right] at same
    cases same
    exact ⟨m, noFloat.1, Or.inl rfl, Or.inl rfl, (if_pos rfl).symm, (if_pos rfl).symm⟩
  · rw [left] at isM
    rw [right] at isN
    cases isM
    cases isN
    obtain ⟨reachesM, reachesN⟩ := NumericType.common?_widens isCommon
    exact ⟨common, NumericType.isExact_of_common? isCommon noFloat.1 noFloat.2, reachesM, reachesN,
      rfl, rfl⟩

theorem kind_of_underlying {t : ValueType} {type : NumericType} {value : Value}
    (underlying : t.underlying = numeric type) (admitted : t.admits value = true)
    (notNull : value.isNull = false) : value.kind = .number type := by
  rw [kind_of_holds (holds_of_admits admitted notNull) notNull, underlying, kind]

theorem rational?_of_admits {t : ValueType} {value : Value} (noFloat : t.isExact = true)
    (admitted : t.admits value = true) (notNull : value.isNull = false) :
    ∃ x, value.rational? = some x := by
  obtain ⟨type, underlying, noFloatType⟩ := underlying_of_isExact noFloat
  exact Value.rational?_of_kind (kind_of_underlying underlying admitted notNull) noFloatType

/-- After the conversions of an accepted comparison, values that are integers or decimals still are
the numbers they were, and any operator relates them as it relates these numbers. -/
theorem exact_of_comparisonPlan {entity filter : ValueType} {op : CompareOp}
    {plan : ConversionPlan} {a b : Value}
    (noFloat : entity.isExact = true ∧ filter.isExact = true)
    (accepted : entity.comparisonPlan filter op = .ok plan)
    (admitted : entity.admits a = true ∧ filter.admits b = true)
    (notNull : a.isNull = false ∧ b.isNull = false) :
    ∃ x y v w, a.rational? = some x ∧ b.rational? = some y ∧
      a.widenIf? plan.entity = some v ∧ v.rational? = some x ∧
      b.widenIf? plan.filter = some w ∧ w.rational? = some y ∧
      ∀ other : CompareOp, Value.satisfies other v w = true ↔ other.Relates x y := by
  obtain ⟨m, isM, exactM⟩ := underlying_of_isExact noFloat.1
  obtain ⟨n, isN, exactN⟩ := underlying_of_isExact noFloat.2
  obtain ⟨common, exactCommon, reachesM, reachesN, planM, planN⟩ :=
    common_of_comparisonPlan isM isN ⟨exactM, exactN⟩ accepted
  have kindA := kind_of_underlying isM admitted.1 notNull.1
  have kindB := kind_of_underlying isN admitted.2 notNull.2
  obtain ⟨x, isX⟩ := rational?_of_admits noFloat.1 admitted.1 notNull.1
  obtain ⟨y, isY⟩ := rational?_of_admits noFloat.2 admitted.2 notNull.2
  obtain ⟨v, widenV, kindV, keptV⟩ := Value.widenIf?_exact kindA reachesM exactCommon
  obtain ⟨w, widenW, kindW, keptW⟩ := Value.widenIf?_exact kindB reachesN exactCommon
  rw [isX] at keptV
  rw [isY] at keptW
  refine ⟨x, y, v, w, isX, isY, planM ▸ widenV, keptV, planN ▸ widenW, keptW, ?_⟩
  intro other
  exact Value.satisfies_exact ⟨kindV, kindW⟩ keptV keptW other

end ValueType

end RecordFilter
