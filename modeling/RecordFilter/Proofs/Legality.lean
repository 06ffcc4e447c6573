import RecordFilter.Proofs.Compatibility

set_option autoImplicit false

/-!
Legality looks at the underlying types only. Whether two types may be related, why not, and what has
to be converted first does not change when one of them becomes nullable or when they change sides,
and all operators that are legal for them have the same plan.
-/

namespace RecordFilter

namespace Width

theorem eq_of_bits_eq {a b : Width} (same : a.bits = b.bits) : a = b := by
  cases a <;> cases b <;> first | rfl | cases same

theorem max_comm (a b : Width) : a.max b = b.max a := by
  unfold max
  split <;> split
  · exact eq_of_bits_eq (by omega)
  · rfl
  · rfl
  · omega

end Width

theorem IntegerType.common?_comm (a b : IntegerType) : a.common? b = b.common? a := by
  obtain ⟨aSigned, aWidth⟩ := a
  obtain ⟨bSigned, bWidth⟩ := b
  cases aSigned <;> cases bSigned <;> simp only [common?, aWidth.max_comm bWidth]

theorem NumericType.common?_comm (a b : NumericType) : a.common? b = b.common? a := by
  cases a with
  | integer s =>
      cases b with
      | integer t => simp only [common?, s.common?_comm t]
      | _ => rfl
  | float s =>
      cases b with
      | float t => cases s <;> cases t <;> rfl
      | _ => rfl
  | decimal => cases b <;> rfl

/-- The plan for the same two types on exchanged sides. -/
def ConversionPlan.exchanged (plan : ConversionPlan) : ConversionPlan :=
  ⟨plan.filter, plan.entity, plan.filterNullable, plan.entityNullable⟩

/-- The plan with other marks of what may be null. -/
def ConversionPlan.marked (plan : ConversionPlan) (entity filter : Bool) : ConversionPlan :=
  { plan with entityNullable := entity, filterNullable := filter }

namespace ValueType

section Nullable

variable (t : ValueType)

@[simp] theorem canBeNull_orNull : t.orNull.canBeNull = true := by
  unfold orNull
  split
  · assumption
  · rfl

/-- A type that can be null without a wrapper gets none, so there is at most the one to open. -/
@[simp] theorem underlying_orNull : t.orNull.underlying = t.underlying := by
  unfold orNull
  split
  · rfl
  · rename_i never
    cases t with
    | nullable inner => exact absurd rfl never
    | _ => rfl

theorem orNull_orNull : t.orNull.orNull = t.orNull := by
  rw [orNull, canBeNull_orNull, if_pos rfl]

theorem admits_null_iff : t.admits .null = true ↔ t.canBeNull = true := by
  cases t <;> simp [admits, holds, canBeNull, isReferenceLike, Value.isNull]

theorem admits_orNull_iff (value : Value) :
    t.orNull.admits value = true ↔ value = .null ∨ t.admits value = true := by
  cases isNull : value.isNull with
  | true =>
      have null := Value.eq_null_of_isNull isNull
      subst null
      simp [admits_null_iff]
  | false =>
      have notNull : value ≠ .null := by
        rintro rfl
        cases isNull
      simp only [admits_of_not_null _ isNull, underlying_orNull, notNull, false_or]

end Nullable

section Sides

variable (s t : ValueType)

theorem commonNumeric?_comm :
    s.commonNumeric? t = (t.commonNumeric? s).map fun found => (found.2.1, found.1, found.2.2) := by
  unfold commonNumeric?
  cases s.numeric? with
  | none => cases t.numeric? <;> rfl
  | some m =>
      cases t.numeric? with
      | none => rfl
      | some n =>
          have either := m.common?_comm n
          cases found : n.common? m <;> simp [either, found]

/-- Types with the same types under them have the same plans, save for what may be null. -/
theorem comparisonPlan_congr {s s' t t' : ValueType} (left : s'.underlying = s.underlying)
    (right : t'.underlying = t.underlying) (op : CompareOp) :
    s'.comparisonPlan t' op = (s.comparisonPlan t op).map (·.marked s'.canBeNull t'.canBeNull) := by
  unfold comparisonPlan
  rw [left, right]
  repeat' split
  all_goals rfl

theorem containmentPlan_congr {s s' t t' : ValueType} (left : s'.underlying = s.underlying)
    (right : t'.underlying = t.underlying) : s'.containmentPlan t' = s.containmentPlan t := by
  rw [containmentPlan, left, right, containmentPlan]

theorem checkStrings_congr {s s' t t' : ValueType} (left : s'.underlying = s.underlying)
    (right : t'.underlying = t.underlying) (op : StringOp) :
    s'.checkStrings t' op = s.checkStrings t op := by
  have entity : s'.isString = s.isString := by rw [isString, left, isString]
  have string : t'.isString = t.isString := by rw [isString, right, isString]
  have strings : t'.isStringList = t.isStringList := by
    rw [isStringList, element?, right, isStringList, element?]
  rw [checkStrings, entity, string, strings, checkStrings]

theorem comparisonPlan_exchanged (op : CompareOp) :
    t.comparisonPlan s op = (s.comparisonPlan t op).map (·.exchanged) := by
  unfold comparisonPlan
  by_cases same : s.underlying = t.underlying
  · rw [if_pos same.symm, if_pos same, same]
    repeat' split
    all_goals rfl
  · rw [if_neg (Ne.symm same), if_neg same, commonNumeric?_comm]
    cases s.underlying.commonNumeric? t.underlying <;> rfl

/-- Where one operator is legal, so is every other one that asks for no more, with the same plan. -/
theorem comparisonPlan_of_weaker {s t : ValueType} {op other : CompareOp} {plan : ConversionPlan}
    (weaker : other.isOrdering = true → op.isOrdering = true)
    (accepted : s.comparisonPlan t op = .ok plan) : s.comparisonPlan t other = .ok plan := by
  unfold comparisonPlan at accepted ⊢
  grind

end Sides

end ValueType

/-- Legality depends on the underlying types alone. Making a type nullable only marks its side of
the plan, and lets the type hold null besides what it holds already; exchanging the types exchanges
the halves of the plan; and the plan is the same for all legal operators, among which equality is
whenever an ordering is. -/
theorem legality_depends_on_underlying_types :
    (∀ (s t : ValueType) (op : CompareOp),
      s.orNull.comparisonPlan t op = (s.comparisonPlan t op).map (·.marked true t.canBeNull) ∧
      s.comparisonPlan t.orNull op = (s.comparisonPlan t op).map (·.marked s.canBeNull true)) ∧
    (∀ s t : ValueType,
      s.orNull.containmentPlan t = s.containmentPlan t ∧
      s.containmentPlan t.orNull = s.containmentPlan t) ∧
    (∀ (s t : ValueType) (op : StringOp),
      s.orNull.checkStrings t op = s.checkStrings t op ∧
      s.checkStrings t.orNull op = s.checkStrings t op) ∧
    (∀ t : ValueType, t.orNull.orNull = t.orNull ∧
      ∀ value, t.orNull.admits value = true ↔ value = .null ∨ t.admits value = true) ∧
    (∀ (s t : ValueType) (op : CompareOp),
      t.comparisonPlan s op = (s.comparisonPlan t op).map (·.exchanged)) ∧
    (∀ (s t : ValueType) (op other : CompareOp) (plan otherPlan : ConversionPlan),
      s.comparisonPlan t op = .ok plan → s.comparisonPlan t other = .ok otherPlan →
      plan = otherPlan) ∧
    ∀ (s t : ValueType) (op : CompareOp) (plan : ConversionPlan),
      op.isOrdering = true → s.comparisonPlan t op = .ok plan →
      s.comparisonPlan t .equal = .ok plan := by
  refine ⟨?_, ?_, ?_, ?_, ?_, ?_, ?_⟩
  · intro s t op
    constructor
    · rw [ValueType.comparisonPlan_congr s.underlying_orNull rfl, s.canBeNull_orNull]
    · rw [ValueType.comparisonPlan_congr rfl t.underlying_orNull, t.canBeNull_orNull]
  · intro s t
    exact ⟨ValueType.containmentPlan_congr s.underlying_orNull rfl,
      ValueType.containmentPlan_congr rfl t.underlying_orNull⟩
  · intro s t op
    exact ⟨ValueType.checkStrings_congr s.underlying_orNull rfl op,
      ValueType.checkStrings_congr rfl t.underlying_orNull op⟩
  · intro t
    exact ⟨t.orNull_orNull, t.admits_orNull_iff⟩
  · intro s t op
    exact s.comparisonPlan_exchanged t op
  · intro s t op other plan otherPlan accepted otherAccepted
    have comparable : (other.isOrdering = true → op.isOrdering = true) ∨
        (op.isOrdering = true → other.isOrdering = true) := by
      cases op.isOrdering <;> simp
    rcases comparable with weaker | weaker
    · rw [ValueType.comparisonPlan_of_weaker weaker accepted] at otherAccepted
      exact Except.ok.inj otherAccepted
    · rw [ValueType.comparisonPlan_of_weaker weaker otherAccepted] at accepted
      exact (Except.ok.inj accepted).symm
  · intro s t op plan _ accepted
    exact ValueType.comparisonPlan_of_weaker (by simp [CompareOp.isOrdering]) accepted

/-- How two types of 32 bits meet, the first of which has a sign and may be null. -/
def signedMeetsUnsigned : ConversionPlan := ⟨some .i64, some .i64, true, false⟩

theorem legality_depends_on_underlying_types_signs :
    (ValueType.numeric .i32).orNull.comparisonPlan (.numeric .u32) .lessThan =
        .ok signedMeetsUnsigned ∧
      (ValueType.numeric .i32).orNull.comparisonPlan (.numeric .u32) .notEqual =
        .ok ⟨some .i64, some .i64, true, false⟩ ∧
      signedMeetsUnsigned = ⟨some .i64, some .i64, true, false⟩ ∧
      (ValueType.numeric .i32).orNull.comparisonPlan (.numeric .u32) .equal =
        .ok signedMeetsUnsigned := by
  obtain ⟨_, _, _, _, _, samePlan, equalToo⟩ := legality_depends_on_underlying_types
  have less : (ValueType.numeric .i32).orNull.comparisonPlan (.numeric .u32) .lessThan =
      .ok signedMeetsUnsigned := rfl
  exact ⟨less, rfl, samePlan _ _ _ .notEqual _ _ less rfl, equalToo _ _ _ _ rfl less⟩

end RecordFilter
