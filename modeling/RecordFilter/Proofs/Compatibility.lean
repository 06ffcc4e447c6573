import RecordFilter.Compatibility
import RecordFilter.Proofs.Widening

set_option autoImplicit false

/-!
Accepted types compare. When a comparison or a containment of two types is accepted, the planned
conversions succeed on all values the types admit, the results are of one kind, and the relation
the operator asks for is decided on them. So no value drops out unnoticed, by a conversion that
fails or by a mixture of kinds.
-/

namespace RecordFilter

/-- The kinds of values. Only values of one kind can be related. -/
inductive Kind where
  | null | bool | char | string | dateTime | enum | list
  | number (type : NumericType)
  | custom (typeName : String)
  deriving DecidableEq, Repr

/-- The relations all values of a kind have. Those of custom values are up to the values. -/
def Kind.comparability : Kind → Comparability
  | null | list | custom _ => .opaqueType
  | bool | string => .equatable
  | char | dateTime | enum | number _ => .ordered

namespace Value

def kind : Value → Kind
  | null => .null
  | bool _ => .bool
  | char _ => .char
  | number n => .number n.type
  | string _ => .string
  | dateTime _ => .dateTime
  | enum _ => .enum
  | list _ => .list
  | custom c => .custom c.typeName

/-- Whether the value is a float that is not a number. -/
def isNaN : Value → Bool
  | number n => n.isNaN
  | _ => false

/-- The value after a conversion, if one is planned. -/
def widenIf? (value : Value) : Option NumericType → Option Value
  | some target => value.widen target
  | none => some value

/-- Equality has an answer, of its own or read off the order. -/
def EqualityDecided (a b : Value) : Prop := (a.equals? b).isSome ∨ (a.compare? b).isSome

theorem eq_null_of_isNull {value : Value} (null : value.isNull = true) : value = .null := by
  cases value with
  | null => rfl
  | _ => cases null

theorem isNull_eq_false_iff (value : Value) : value.isNull = false ↔ value.kind ≠ .null := by
  cases value <;> simp [isNull, kind]

theorem number_of_kind {value : Value} {type : NumericType} (kind : value.kind = .number type) :
    ∃ n : Number, value = number n ∧ n.type = type := by
  cases value <;> cases kind
  exact ⟨_, rfl, rfl⟩

theorem equalityDecided_of_kind {a b : Value} (same : a.kind = b.kind)
    (equality : a.kind.comparability.hasEquality = true) : EqualityDecided a b := by
  apply Or.inl
  cases a with
  | null | list | custom => cases equality
  | number m =>
      obtain ⟨n, rfl, ofType⟩ := number_of_kind same.symm
      exact (m.equals?_isSome_iff n).mpr ofType.symm
  | bool | char | string | dateTime | enum =>
      cases b <;> cases same
      rfl

theorem compare?_isSome_iff {a b : Value} (same : a.kind = b.kind)
    (ordering : a.kind.comparability.hasOrdering = true) :
    (a.compare? b).isSome ↔ a.isNaN = false ∧ b.isNaN = false := by
  cases a with
  | null | bool | string | list | custom => cases ordering
  | number m =>
      obtain ⟨n, rfl, ofType⟩ := number_of_kind same.symm
      exact Number.compare?_isSome_iff ofType.symm
  | char | dateTime | enum =>
      cases b <;> cases same
      exact iff_of_true rfl ⟨rfl, rfl⟩

theorem widen_of_kind {value : Value} {type target : NumericType}
    (kind : value.kind = .number type) (widens : type.Widens target) :
    ∃ result, value.widen target = some result ∧ result.kind = .number target ∧
      result.isNaN = value.isNaN := by
  obtain ⟨n, rfl, rfl⟩ := number_of_kind kind
  obtain ⟨m, found, rfl, nan⟩ := Number.convert_of_widens widens
  exact ⟨number m, by rw [widen, found, Option.map_some], rfl, nan⟩

/-- One side reaches the common type, also when no conversion is planned for it. -/
theorem widenIf?_of_kind {value : Value} {type common : NumericType}
    (kind : value.kind = .number type) (reaches : type = common ∨ type.Widens common) :
    ∃ result, value.widenIf? (if type = common then none else some common) = some result ∧
      result.kind = .number common ∧ result.isNaN = value.isNaN := by
  by_cases same : type = common
  · rw [if_pos same]
    exact ⟨value, rfl, same ▸ kind, rfl⟩
  · rw [if_neg same]
    exact widen_of_kind kind (reaches.resolve_left same)

end Value

/-- Two values of a custom type have the relation the type declares. -/
def CustomType.Implemented (type : CustomType) (a b : CustomValue) : Prop :=
  match type.comparability with
  | .opaqueType => True
  | .equatable => (a.equals? b).isSome
  | .ordered => (a.compare? b).isSome

namespace CustomType

variable {type : CustomType} {a b : CustomValue} (implemented : type.Implemented a b)

include implemented

/-- A type with an order and no equality leaves equality to the order. -/
theorem equalityDecided_of_implemented (equality : type.comparability.hasEquality = true) :
    (a.equals? b).isSome ∨ (a.compare? b).isSome := by
  unfold Implemented at implemented
  cases declared : type.comparability <;> simp only [declared] at implemented equality
  · cases equality
  · exact Or.inl implemented
  · exact Or.inr implemented

theorem compare?_isSome_of_implemented (ordering : type.comparability.hasOrdering = true) :
    (a.compare? b).isSome := by
  unfold Implemented at implemented
  cases declared : type.comparability <;> simp only [declared] at implemented ordering
  · cases ordering
  · cases ordering
  · exact implemented

end CustomType

namespace ValueType

/-- If the type is a custom one, two values have the relation it declares. -/
def Implemented (t : ValueType) (a b : Value) : Prop :=
  ∀ type x y, t = custom type → a = .custom x → b = .custom y → type.Implemented x y

/-- No wrapper directly wraps another one. -/
def isNormal : ValueType → Bool
  | nullable (nullable _) => false
  | nullable inner => inner.isNormal
  | list element => element.isNormal
  | _ => true

/-- The kind of the values that are not null. -/
def kind : ValueType → Kind
  | bool => .bool
  | char => .char
  | numeric n => .number n
  | string => .string
  | dateTime => .dateTime
  | enum _ => .enum
  | custom c => .custom c.name
  | list _ => .list
  | nullable inner => inner.kind

theorem admits_of_not_null (t : ValueType) {value : Value} (notNull : value.isNull = false) :
    t.admits value = t.underlying.holds false value := by
  cases t with
  | nullable inner => rw [admits, holds, notNull, Bool.false_or, underlying]
  | _ => cases value <;> rfl

theorem holds_of_admits {t : ValueType} {value : Value} (admitted : t.admits value = true)
    (notNull : value.isNull = false) : t.underlying.holds false value = true := by
  rwa [← t.admits_of_not_null notNull]

theorem number_of_holds {type : NumericType} {value : Value}
    (held : (numeric type).holds false value = true) :
    ∃ n : Number, value = .number n ∧ n.type = type := by
  cases value with
  | number n => exact ⟨n, rfl, eq_of_beq held⟩
  | _ => cases held

theorem custom_of_holds {type : CustomType} {value : Value}
    (held : (custom type).holds false value = true) (notNull : value.isNull = false) :
    ∃ c : CustomValue, value = .custom c ∧ c.typeName = type.name := by
  cases value with
  | null => cases notNull
  | custom c => exact ⟨c, rfl, eq_of_beq held⟩
  | _ => cases held

theorem kind_of_holds {t : ValueType} {value : Value} (held : t.holds false value = true)
    (notNull : value.isNull = false) : value.kind = t.kind := by
  cases t with
  | numeric type =>
      obtain ⟨n, rfl, rfl⟩ := number_of_holds held
      rfl
  | custom type =>
      obtain ⟨c, rfl, named⟩ := custom_of_holds held notNull
      exact congrArg Kind.custom named
  | nullable inner => cases held
  | bool | char | string | dateTime | enum | list =>
      cases value with
      | null => cases notNull
      | _ => first | rfl | cases held

theorem kind_eq_of_holds {t : ValueType} {a b : Value} (first : t.holds false a = true)
    (second : t.holds false b = true) (notNull : a.isNull = false ∧ b.isNull = false) :
    a.kind = b.kind := by
  rw [kind_of_holds first notNull.1, kind_of_holds second notNull.2]

/-- A wrapper under a wrapper holds nothing. -/
theorem ne_nullable_of_holds {t : ValueType} {value : Value} (held : t.holds false value = true)
    (inner : ValueType) : t ≠ nullable inner := by
  rintro rfl
  simp [holds] at held

theorem underlying_ne_nullable {t : ValueType} (normal : t.isNormal = true) (inner : ValueType) :
    t.underlying ≠ nullable inner := by
  cases t with
  | nullable wrapped =>
      rw [underlying]
      rintro rfl
      cases normal
  | _ => nofun

theorem eq_numeric_of_numeric? {t : ValueType} {type : NumericType}
    (bare : ∀ inner, t ≠ nullable inner) (found : t.numeric? = some type) : t = numeric type := by
  cases t with
  | nullable inner => exact absurd rfl (bare inner)
  | numeric other => exact congrArg numeric (Option.some.inj found)
  | _ => cases found

/-- Different types with numeric types under them differ in these, as none is wrapped twice. -/
theorem numeric_ne_of_ne {s t : ValueType} {m n : NumericType} (bare : ∀ inner, s ≠ nullable inner)
    (other : ∀ inner, t ≠ nullable inner) (different : s ≠ t) (isM : s.numeric? = some m)
    (isN : t.numeric? = some n) : n ≠ m := by
  rintro rfl
  apply different
  rw [eq_numeric_of_numeric? bare isM, eq_numeric_of_numeric? other isN]

theorem kind_of_numeric {t : ValueType} {value : Value} {type : NumericType}
    (found : t.numeric? = some type) (held : t.holds false value = true)
    (notNull : value.isNull = false) : value.kind = .number type := by
  have same := eq_numeric_of_numeric? (ne_nullable_of_holds held) found
  subst same
  exact kind_of_holds held notNull

/-- A type that is not custom has the relations of the kind of its values. -/
theorem comparability_eq_kind {t : ValueType} (notCustom : ∀ type, t ≠ custom type)
    (bare : ∀ inner, t ≠ nullable inner) : t.comparability = t.kind.comparability := by
  cases t with
  | custom type => exact absurd rfl (notCustom type)
  | nullable inner => exact absurd rfl (bare inner)
  | _ => rfl

section Relations

variable {t : ValueType} {a b : Value} (first : t.holds false a = true)
  (second : t.holds false b = true) (notNull : a.isNull = false ∧ b.isNull = false)
  (implemented : t.Implemented a b)

include first second notNull implemented

theorem equalityDecided_of_holds (equality : t.comparability.hasEquality = true) :
    a.EqualityDecided b := by
  cases t with
  | custom type =>
      obtain ⟨x, rfl, -⟩ := custom_of_holds first notNull.1
      obtain ⟨y, rfl, -⟩ := custom_of_holds second notNull.2
      exact CustomType.equalityDecided_of_implemented (implemented type x y rfl rfl rfl) equality
  | nullable inner => simp [holds] at first
  | _ =>
      apply Value.equalityDecided_of_kind (kind_eq_of_holds first second notNull)
      rwa [kind_of_holds first notNull.1, ← comparability_eq_kind (by simp) (by simp)]

theorem compare?_isSome_iff_of_holds (ordering : t.comparability.hasOrdering = true) :
    (a.compare? b).isSome ↔ a.isNaN = false ∧ b.isNaN = false := by
  cases t with
  | custom type =>
      obtain ⟨x, rfl, -⟩ := custom_of_holds first notNull.1
      obtain ⟨y, rfl, -⟩ := custom_of_holds second notNull.2
      have defined :=
        CustomType.compare?_isSome_of_implemented (implemented type x y rfl rfl rfl) ordering
      exact iff_of_true defined ⟨rfl, rfl⟩
  | nullable inner => simp [holds] at first
  | _ =>
      apply Value.compare?_isSome_iff (kind_eq_of_holds first second notNull)
      rwa [kind_of_holds first notNull.1, ← comparability_eq_kind (by simp) (by simp)]

end Relations

section Plans

variable {entity filter : ValueType}

theorem commonNumeric?_cases {m n common : NumericType}
    (found : entity.commonNumeric? filter = some (m, n, common)) :
    entity.numeric? = some m ∧ filter.numeric? = some n ∧ m.common? n = some common := by
  simp only [commonNumeric?, Option.bind_eq_bind, Option.bind_eq_some_iff, Option.pure_def,
    Option.some.injEq, Prod.mk.injEq] at found
  obtain ⟨_, left, _, right, _, isCommon, rfl, rfl, rfl⟩ := found
  exact ⟨left, right, isCommon⟩

/-- A comparison is accepted for one of two reasons: the underlying types are equal and have the
relation, or they are different numeric types with a common one. -/
theorem comparisonPlan_cases {op : CompareOp} {plan : ConversionPlan}
    (accepted : entity.comparisonPlan filter op = .ok plan) :
    (entity.underlying = filter.underlying ∧
      entity.underlying.comparability.hasEquality = true ∧
      (op.isOrdering = true → entity.underlying.comparability.hasOrdering = true) ∧
      plan = ⟨none, none, entity.canBeNull, filter.canBeNull⟩) ∨
    (entity.underlying ≠ filter.underlying ∧
      ∃ m n common, entity.underlying.numeric? = some m ∧ filter.underlying.numeric? = some n ∧
        m.common? n = some common ∧
        plan = ⟨if m = common then none else some common, if n = common then none else some common,
          entity.canBeNull, filter.canBeNull⟩) := by
  unfold comparisonPlan at accepted
  split at accepted
  · rename_i same
    refine Or.inl ⟨same, ?_⟩
    split at accepted
    · cases accepted
    · rename_i hasEquality
      split at accepted
      · cases accepted
      · rename_i hasOrdering
        cases accepted
        refine ⟨by simpa using hasEquality, ?_, rfl⟩
        intro asked
        simpa [asked] using hasOrdering
  · rename_i different
    refine Or.inr ⟨different, ?_⟩
    split at accepted
    · rename_i m n common found
      cases accepted
      obtain ⟨left, right, isCommon⟩ := commonNumeric?_cases found
      exact ⟨m, n, common, left, right, isCommon, rfl⟩
    · cases accepted

/-- A containment is accepted for one of two reasons: the underlying types are equal and have an
equality, or the item widens to the type of the elements. -/
theorem containmentPlan_cases {element item : ValueType} {convert : Option NumericType}
    (accepted : element.containmentPlan item = .ok convert) :
    (element.underlying = item.underlying ∧
      element.underlying.comparability.hasEquality = true ∧ convert = none) ∨
    (element.underlying ≠ item.underlying ∧
      ∃ m n, element.underlying.numeric? = some m ∧ item.underlying.numeric? = some n ∧
        m.common? n = some m ∧ convert = some m) := by
  unfold containmentPlan at accepted
  split at accepted
  · rename_i same
    split at accepted
    · cases accepted
      exact Or.inl ⟨same, by assumption, rfl⟩
    · cases accepted
  · rename_i different
    refine Or.inr ⟨different, ?_⟩
    split at accepted
    · rename_i m n common found
      obtain ⟨left, right, isCommon⟩ := commonNumeric?_cases found
      split at accepted
      · rename_i same
        cases accepted
        exact ⟨m, n, left, right, same ▸ isCommon, rfl⟩
      · cases accepted
    · cases accepted

end Plans

theorem admits_of_mem {collection element : ValueType} {items : List Value} {x : Value}
    (list : collection.element? = some element) (admitted : collection.admits (.list items) = true)
    (member : x ∈ items) : element.admits x = true := by
  have held := holds_of_admits admitted rfl
  unfold element? at list
  split at list
  · rename_i same
    cases list
    rw [same, holds, List.all_eq_true] at held
    exact held x member
  · cases list

/-- After the conversions of an accepted comparison the two values can be related as the operator
asks. -/
theorem related_of_comparisonPlan {entity filter : ValueType} {op : CompareOp}
    {plan : ConversionPlan} {a b : Value} (accepted : entity.comparisonPlan filter op = .ok plan)
    (first : entity.admits a = true) (second : filter.admits b = true)
    (notNull : a.isNull = false ∧ b.isNull = false)
    (implemented : entity.underlying.Implemented a b) :
    ∃ x y, a.widenIf? plan.entity = some x ∧ b.widenIf? plan.filter = some y ∧
      x.isNull = false ∧ x.kind = y.kind ∧ x.EqualityDecided y ∧
      (op.isOrdering = true →
        ((x.compare? y).isSome ↔ a.isNaN = false ∧ b.isNaN = false)) := by
  have left := holds_of_admits first notNull.1
  have right := holds_of_admits second notNull.2
  rcases comparisonPlan_cases accepted with
    ⟨same, equality, ordering, rfl⟩ | ⟨_, m, n, common, isM, isN, isCommon, rfl⟩
  -- Equal types are compared as they are, by the relations of the type.
  · rw [← same] at right
    exact ⟨a, b, rfl, rfl, notNull.1, kind_eq_of_holds left right notNull,
      equalityDecided_of_holds left right notNull implemented equality,
      fun asked => compare?_isSome_iff_of_holds left right notNull implemented (ordering asked)⟩
  -- Different ones are numeric, and what meets in the common type are two numbers.
  · obtain ⟨reachesM, reachesN⟩ := NumericType.common?_widens isCommon
    obtain ⟨x, widenX, kindX, nanX⟩ :=
      Value.widenIf?_of_kind (kind_of_numeric isM left notNull.1) reachesM
    obtain ⟨y, widenY, kindY, nanY⟩ :=
      Value.widenIf?_of_kind (kind_of_numeric isN right notNull.2) reachesN
    have same : x.kind = y.kind := by rw [kindX, kindY]
    refine ⟨x, y, widenX, widenY, ?_, same, ?_, ?_⟩
    · rw [Value.isNull_eq_false_iff, kindX]
      simp
    · exact Value.equalityDecided_of_kind same (by rw [kindX]; rfl)
    · intro _
      rw [← nanX, ← nanY]
      exact Value.compare?_isSome_iff same (by rw [kindX]; rfl)

/-- After the conversion of an accepted containment, equality of the item with every element is
decided. -/
theorem related_of_containmentPlan {element item : ValueType} {convert : Option NumericType}
    {b : Value} (normal : element.isNormal = true)
    (accepted : element.containmentPlan item = .ok convert) (admitted : item.admits b = true)
    (notNull : b.isNull = false) :
    ∃ y, b.widenIf? convert = some y ∧ y.isNull = false ∧
      ∀ x, element.admits x = true → x.isNull = false → element.underlying.Implemented x b →
        x.kind = y.kind ∧ x.EqualityDecided y := by
  have right := holds_of_admits admitted notNull
  rcases containmentPlan_cases accepted with
    ⟨same, equality, rfl⟩ | ⟨different, m, n, isM, isN, isCommon, rfl⟩
  · refine ⟨b, rfl, notNull, ?_⟩
    intro x admittedX notNullX implemented
    have left := holds_of_admits admittedX notNullX
    rw [← same] at right
    exact ⟨kind_eq_of_holds left right ⟨notNullX, notNull⟩,
      equalityDecided_of_holds left right ⟨notNullX, notNull⟩ implemented equality⟩
  · have kindB := kind_of_numeric isN right notNull
    have apart := numeric_ne_of_ne (underlying_ne_nullable normal) (ne_nullable_of_holds right)
      different isM isN
    have widens := (NumericType.common?_widens isCommon).2.resolve_left apart
    obtain ⟨y, widenY, kindY, _⟩ := Value.widen_of_kind kindB widens
    refine ⟨y, widenY, ?_, ?_⟩
    · rw [Value.isNull_eq_false_iff, kindY]
      simp
    · intro x admittedX notNullX _
      have kindX := kind_of_numeric isM (holds_of_admits admittedX notNullX) notNullX
      have same : x.kind = y.kind := by rw [kindX, kindY]
      exact ⟨same, Value.equalityDecided_of_kind same (by rw [kindX]; rfl)⟩

end ValueType

/-- Accepted types compare. For an accepted comparison, values other than null that the two types
admit have their planned conversions, which are not null, are of one kind and have their equality
decided; their order is decided too when the operator needs it, unless a float is not a number.
For an accepted containment the same holds of the converted item and every element of a collection.
A type with a wrapper right under a wrapper admits nothing but null. Only as the type of elements
it has to be excluded, since the item is converted even for a collection without any. -/
theorem accepted_types_relate :
    (∀ (entity filter : ValueType) (op : CompareOp) (plan : ConversionPlan) (a b : Value),
      entity.comparisonPlan filter op = .ok plan →
      entity.admits a = true → filter.admits b = true →
      a.isNull = false ∧ b.isNull = false →
      entity.underlying.Implemented a b →
      ∃ x y, a.widenIf? plan.entity = some x ∧ b.widenIf? plan.filter = some y ∧
        x.isNull = false ∧ x.kind = y.kind ∧ x.EqualityDecided y ∧
        (op.isOrdering = true →
          ((x.compare? y).isSome ↔ a.isNaN = false ∧ b.isNaN = false))) ∧
    ∀ (collection element item : ValueType) (convert : Option NumericType) (b : Value),
      collection.element? = some element → element.isNormal = true →
      element.containmentPlan item = .ok convert →
      item.admits b = true → b.isNull = false →
      ∃ y, b.widenIf? convert = some y ∧ y.isNull = false ∧
        ∀ items x, collection.admits (.list items) = true → x ∈ items → x.isNull = false →
          element.underlying.Implemented x b →
          x.kind = y.kind ∧ x.EqualityDecided y := by
  constructor
  · intro entity filter op plan a b accepted first second notNull implemented
    exact ValueType.related_of_comparisonPlan accepted first second notNull implemented
  · intro collection element item convert b list normal accepted admitted notNull
    obtain ⟨y, widened, notNullY, related⟩ :=
      ValueType.related_of_containmentPlan normal accepted admitted notNull
    refine ⟨y, widened, notNullY, ?_⟩
    intro items x held member notNullX implemented
    exact related x (ValueType.admits_of_mem list held member) notNullX implemented

/-- A negative number of 32 bits. -/
def minusOne : Value := .number (.integer ⟨true, .w32⟩ ⟨-1, by decide, by decide⟩)

/-- A number of 32 bits that no signed type as wide holds. -/
def largestUnsigned : Value :=
  .number (.integer ⟨false, .w32⟩ ⟨4294967295, by decide, by decide⟩)

/-- The same number in a type of 64 bits. -/
def largestWidened : Value :=
  .number (.integer ⟨true, .w64⟩ ⟨4294967295, by decide, by decide⟩)

/-- Two versions, of a type with an order and no equality of its own. -/
def firstVersion : Value := .custom (.version 0 1)

def secondVersion : Value := .custom (.version 1 2)

theorem accepted_types_relate_examples :
    (∃ x y, minusOne.widenIf? (some .i64) = some x ∧
        largestUnsigned.widenIf? (some .i64) = some y ∧ x.kind = y.kind ∧
        (x.compare? y).isSome) ∧
      (∃ x y, firstVersion.widenIf? none = some x ∧ secondVersion.widenIf? none = some y ∧
        x.EqualityDecided y ∧ (x.compare? y).isSome) ∧
      ∃ y, largestUnsigned.widenIf? (some .i64) = some y ∧ largestWidened.kind = y.kind ∧
        largestWidened.EqualityDecided y := by
  refine ⟨?_, ?_, ?_⟩
  · obtain ⟨x, y, widenX, widenY, _, same, _, ordered⟩ := accepted_types_relate.1
      (.nullable (.numeric .i32)) (.numeric .u32) .lessThan ⟨some .i64, some .i64, true, false⟩
      minusOne largestUnsigned rfl rfl rfl ⟨rfl, rfl⟩ (fun _ _ _ custom => nomatch custom)
    exact ⟨x, y, widenX, widenY, same, (ordered rfl).mpr ⟨rfl, rfl⟩⟩
  · obtain ⟨x, y, keepX, keepY, _, _, equality, ordered⟩ := accepted_types_relate.1
      (.custom ⟨"Version", .ordered, false⟩) (.custom ⟨"Version", .ordered, false⟩) .lessThan
      ⟨none, none, false, false⟩ firstVersion secondVersion rfl rfl rfl ⟨rfl, rfl⟩
      (by rintro _ _ _ ⟨⟩ ⟨⟩ ⟨⟩; rfl)
    exact ⟨x, y, keepX, keepY, equality, (ordered rfl).mpr ⟨rfl, rfl⟩⟩
  · obtain ⟨y, widenY, _, related⟩ := accepted_types_relate.2
      (.list (.nullable (.numeric .i64))) (.nullable (.numeric .i64)) (.numeric .u32) (some .i64)
      largestUnsigned rfl rfl rfl rfl rfl
    exact ⟨y, widenY, related [.null, largestWidened] largestWidened rfl (by simp) rfl
      (fun _ _ _ custom => nomatch custom)⟩

end RecordFilter
