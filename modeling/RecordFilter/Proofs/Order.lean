import RecordFilter.Proofs.Compatibility
import RecordFilter.Value.Match

set_option autoImplicit false

/-!
Comparing from the other side. The order of two values, read with the values exchanged, is the
opposite one, and every operator has a mirror image that holds of the exchanged values just when
the operator holds of the values as they were. Custom values bring their own order, for which this
has to be assumed.
-/

namespace RecordFilter

namespace CompareOp

/-- The operator that says the same of exchanged operands. -/
def mirrored : CompareOp → CompareOp
  | equal => equal
  | notEqual => notEqual
  | greaterThan => lessThan
  | greaterOrEqual => lessOrEqual
  | lessThan => greaterThan
  | lessOrEqual => greaterOrEqual

variable (op : CompareOp)

@[simp] theorem inverse_mirrored : op.mirrored.inverse = op.inverse.mirrored := by
  cases op <;> rfl

@[simp] theorem isOrdering_inverse : op.inverse.isOrdering = op.isOrdering := by
  cases op <;> rfl

@[simp] theorem isOrdering_mirrored : op.mirrored.isOrdering = op.isOrdering := by
  cases op <;> rfl

theorem holds_mirrored_swap (order : Ordering) : op.mirrored.holds order.swap = op.holds order := by
  cases op <;> cases order <;> rfl

end CompareOp

namespace RangeBound

variable (kind : RangeBound)

theorem isOrdering_lowerOp : kind.lowerOp.isOrdering = true := by
  cases kind <;> rfl

theorem isOrdering_upperOp : kind.upperOp.isOrdering = true := by
  cases kind <;> rfl

end RangeBound

theorem Binary.compare?_swap {t u : FloatType} (x : Binary t) (y : Binary u) :
    y.compare? x = (x.compare? y).map Ordering.swap := by
  unfold compare?
  rw [Bool.or_comm]
  split
  · rfl
  · exact congrArg some Std.OrientedCmp.eq_swap

theorem Decimal.compare_swap (a b : Decimal) : b.compare a = (a.compare b).swap := by
  unfold compare
  exact Std.OrientedCmp.eq_swap

theorem Number.compare?_swap (a b : Number) :
    b.compare? a = (a.compare? b).map Ordering.swap := by
  cases a with
  | integer t x =>
      cases b with
      | integer u y =>
          by_cases same : t = u
          · simp only [compare?, same, ↓reduceIte]
            exact congrArg some Std.OrientedCmp.eq_swap
          · simp only [compare?, same, Ne.symm same, ↓reduceIte, Option.map_none]
      | _ => rfl
  | float t x =>
      cases b with
      | float u y =>
          by_cases same : t = u
          · simp only [compare?, same, ↓reduceIte]
            exact x.compare?_swap y
          · simp only [compare?, same, Ne.symm same, ↓reduceIte, Option.map_none]
      | _ => rfl
  | decimal x =>
      cases b with
      | decimal y => exact congrArg some (x.compare_swap y)
      | _ => rfl

/-- The orders that two custom values say they have, each seen from itself, are opposite. -/
def CustomValue.Antisymmetric (a b : CustomValue) : Prop :=
  b.compare? a = (a.compare? b).map Ordering.swap

namespace Value

/-- If both values are custom ones, their orders are opposite. -/
def Antisymmetric (a b : Value) : Prop :=
  ∀ x y, a = custom x → b = custom y → x.Antisymmetric y

section Exchange

variable {a b : Value} (antisymmetric : a.Antisymmetric b)

include antisymmetric

theorem compare?_swap : b.compare? a = (a.compare? b).map Ordering.swap := by
  cases a with
  | char x =>
      cases b with
      | char y => exact congrArg some Std.OrientedCmp.eq_swap
      | _ => rfl
  | number x =>
      cases b with
      | number y => exact x.compare?_swap y
      | _ => rfl
  | dateTime x =>
      cases b with
      | dateTime y => exact congrArg some Std.OrientedCmp.eq_swap
      | _ => rfl
  | enum x =>
      cases b with
      | enum y => exact congrArg some Std.OrientedCmp.eq_swap
      | _ => rfl
  | custom x =>
      cases b with
      | custom y => exact antisymmetric x y rfl rfl
      | _ => rfl
  | _ => cases b <;> rfl

theorem order?_swap : b.order? a = (a.order? b).map Ordering.swap := by
  unfold order?
  rw [Bool.or_comm]
  split
  · rfl
  · exact compare?_swap antisymmetric

end Exchange

/-- An ordering operator looks at the order alone. -/
theorem satisfies_of_isOrdering {op : CompareOp} (ordering : op.isOrdering = true) (a b : Value) :
    satisfies op a b = (a.order? b).any op.holds := by
  cases op with
  | equal => cases ordering
  | notEqual => cases ordering
  | _ => rfl

theorem satisfies_mirrored {op : CompareOp} (ordering : op.isOrdering = true) {a b : Value}
    (antisymmetric : a.Antisymmetric b) :
    satisfies op.mirrored b a = satisfies op a b := by
  rw [satisfies_of_isOrdering (op.isOrdering_mirrored.trans ordering),
    satisfies_of_isOrdering ordering, order?_swap antisymmetric]
  cases a.order? b with
  | none => rfl
  | some order => exact op.holds_mirrored_swap order

end Value

end RecordFilter
