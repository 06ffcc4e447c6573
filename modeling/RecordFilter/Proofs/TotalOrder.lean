import RecordFilter.Proofs.Exactness
import RecordFilter.Proofs.Order

set_option autoImplicit false

/-!
The operators are a total order. Values of an ordered kind have places on a line, in the order in
which they compare, and equality is to have one place. Custom values bring an order and perhaps an
equality of their own, of which the same has to be assumed.
-/

namespace RecordFilter

/-- A family of things among which an order that may lack an answer is total, and with which an
equality agrees wherever it has one. -/
structure OrdersTotally {α : Type} (compare? : α → α → Option Ordering)
    (equals? : α → α → Option Bool) (family : α → Prop) : Prop where
  decided {a b : α} : family a → family b → (compare? a b).isSome = true
  opposite {a b : α} : family a → family b → compare? b a = (compare? a b).map Ordering.swap
  transitive {a b c : α} : family a → family b → family c → (compare? a b).any (·.isLE) = true →
    (compare? b c).any (·.isLE) = true → (compare? a c).any (·.isLE) = true
  agrees {a b : α} {same : Bool} : family a → family b → equals? a b = some same →
    (compare? a b).any (·.isEq) = same

namespace OrdersTotally

variable {α : Type} {compare? : α → α → Option Ordering} {equals? : α → α → Option Bool}
  {family : α → Prop} (total : OrdersTotally compare? equals? family) {a b c : α}

include total

theorem mono {smaller : α → Prop} (within : ∀ x, smaller x → family x) :
    OrdersTotally compare? equals? smaller where
  decided inA inB := total.decided (within _ inA) (within _ inB)
  opposite inA inB := total.opposite (within _ inA) (within _ inB)
  transitive inA inB inC := total.transitive (within _ inA) (within _ inB) (within _ inC)
  agrees inA inB := total.agrees (within _ inA) (within _ inB)

theorem eq_of_le_of_ge (inA : family a) (inB : family b)
    (below : (compare? a b).any (·.isLE) = true) (above : (compare? b a).any (·.isLE) = true) :
    compare? a b = some .eq := by
  obtain ⟨order, found⟩ := Option.isSome_iff_exists.mp (total.decided inA inB)
  rw [total.opposite inA inB, found] at above
  rw [found] at below ⊢
  cases order with
  | lt => cases above
  | eq => rfl
  | gt => cases below

theorem eq_trans (inA : family a) (inB : family b) (inC : family c)
    (first : compare? a b = some .eq) (second : compare? b c = some .eq) :
    compare? a c = some .eq := by
  have firstBack : compare? b a = some .eq := by rw [total.opposite inA inB, first]; rfl
  have secondBack : compare? c b = some .eq := by rw [total.opposite inB inC, second]; rfl
  apply total.eq_of_le_of_ge inA inC
  · exact total.transitive inA inB inC (by rw [first]; rfl) (by rw [second]; rfl)
  · exact total.transitive inC inB inA (by rw [secondBack]; rfl) (by rw [firstBack]; rfl)

theorem lt_trans (inA : family a) (inB : family b) (inC : family c)
    (first : compare? a b = some .lt) (second : compare? b c = some .lt) :
    compare? a c = some .lt := by
  have below := total.transitive inA inB inC (by rw [first]; rfl) (by rw [second]; rfl)
  obtain ⟨order, found⟩ := Option.isSome_iff_exists.mp (total.decided inA inC)
  cases order with
  | lt => exact found
  | eq =>
      -- If the outer two were equal, the last would not be above the middle one.
      have back : compare? c a = some .eq := by rw [total.opposite inA inC, found]; rfl
      have above := total.transitive inC inA inB (by rw [back]; rfl) (by rw [first]; rfl)
      rw [total.opposite inB inC, second] at above
      cases above
  | gt =>
      rw [found] at below
      cases below

end OrdersTotally

/-- The place of a number among those of its type. Floats that are not numbers have none. -/
def Number.place? : Number → Option Rat
  | integer _ n => some n.value
  | float _ x => if x.isNaN then none else some x.rank
  | decimal d => some d.toRat

/-- The place of a value among those of its kind, if the kind comes with an order. -/
def Value.place? : Value → Option Rat
  | char c => some c.toNat
  | number n => n.place?
  | dateTime ms => some ms
  | enum ordinal => some ordinal
  | _ => none

namespace Number

theorem place?_isSome (n : Number) : n.place?.isSome = !n.isNaN := by
  cases n with
  | float t x =>
      rw [place?, isNaN]
      cases x.isNaN <;> rfl
  | _ => rfl

/-- Numbers of one type are compared as their places are. -/
theorem compare?_of_place {a b : Number} {x y : Rat} (same : a.type = b.type)
    (left : a.place? = some x) (right : b.place? = some y) :
    ∃ order, a.compare? b = some order ∧
      ∀ op : CompareOp, op.holds order = true ↔ op.Relates x y := by
  cases a with
  | float t m =>
      cases b with
      | float u n =>
          cases same
          rw [place?] at left right
          split at left
          · cases left
          · split at right
            · cases right
            · rename_i number otherNumber
              cases left
              cases right
              refine ⟨compare m.rank n.rank, ?_, ?_⟩
              · simp only [compare?, Binary.compare?, number, otherNumber, Bool.or_self,
                  Bool.false_eq_true, ↓reduceIte]
              · intro op
                exact op.holds_compare_iff Int.cast_lt.symm Int.cast_lt.symm
      | _ => cases same
  | _ => exact compare?_exact same left (by cases b <;> first | exact right | cases same)

end Number

namespace Value

/-- Values of one kind are compared as their places are. -/
theorem compare?_of_place {a b : Value} {x y : Rat} (same : a.kind = b.kind)
    (left : a.place? = some x) (right : b.place? = some y) :
    ∃ order, a.compare? b = some order ∧
      ∀ op : CompareOp, op.holds order = true ↔ op.Relates x y := by
  cases a with
  | char c =>
      cases b with
      | char d =>
          cases left
          cases right
          exact ⟨compare c.toNat d.toNat, rfl,
            fun op => op.holds_compare_iff Nat.cast_lt.symm Nat.cast_lt.symm⟩
      | _ => cases same
  | number m =>
      cases b with
      | number n =>
          have sameType : m.type = n.type := Kind.number.inj same
          exact Number.compare?_of_place sameType left right
      | _ => cases same
  | dateTime m =>
      cases b with
      | dateTime n =>
          cases left
          cases right
          exact ⟨compare m n, rfl, fun op => op.holds_compare_iff Int.cast_lt.symm Int.cast_lt.symm⟩
      | _ => cases same
  | enum m =>
      cases b with
      | enum n =>
          cases left
          cases right
          exact ⟨compare m n, rfl, fun op => op.holds_compare_iff Int.cast_lt.symm Int.cast_lt.symm⟩
      | _ => cases same
  | _ => cases left

/-- Apart from custom values, equality is read off the order wherever there are both. -/
theorem equals?_of_compare? {a b : Value} {order : Ordering} {same : Bool}
    (builtIn : ∀ c, a ≠ custom c) (found : a.compare? b = some order)
    (decided : a.equals? b = some same) : order.isEq = same := by
  cases a with
  | char c =>
      cases b with
      | char d =>
          cases found
          cases decided
          rw [Bool.eq_iff_iff, Ordering.isEq_iff_eq_eq, compare_eq_iff_eq, beq_iff_eq,
            Char.toNat_inj]
      | _ => cases found
  | number m =>
      cases b with
      | number n =>
          rw [equals?, Number.equals?] at decided
          rw [compare?] at found
          split at decided
          · cases decided
            rw [found]
            cases order <;> rfl
          · cases decided
      | _ => cases found
  | dateTime m =>
      cases b with
      | dateTime n =>
          cases found
          cases decided
          rw [Bool.eq_iff_iff, Ordering.isEq_iff_eq_eq, compare_eq_iff_eq, beq_iff_eq]
      | _ => cases found
  | enum m =>
      cases b with
      | enum n =>
          cases found
          cases decided
          rw [Bool.eq_iff_iff, Ordering.isEq_iff_eq_eq, compare_eq_iff_eq, beq_iff_eq]
      | _ => cases found
  | custom c => exact absurd rfl (builtIn c)
  | _ => cases found

/-- The values of a kind that have a place are totally ordered. -/
theorem ordersTotally_of_place (kind : Kind) :
    OrdersTotally compare? equals? fun value => value.kind = kind ∧ value.place?.isSome = true := by
  have compared {a b : Value} (inA : a.kind = kind ∧ a.place?.isSome = true)
      (inB : b.kind = kind ∧ b.place?.isSome = true) :
      ∃ x y order, a.place? = some x ∧ b.place? = some y ∧ a.compare? b = some order ∧
        ∀ op : CompareOp, op.holds order = true ↔ op.Relates x y := by
    obtain ⟨x, left⟩ := Option.isSome_iff_exists.mp inA.2
    obtain ⟨y, right⟩ := Option.isSome_iff_exists.mp inB.2
    obtain ⟨order, found, related⟩ := compare?_of_place (inA.1.trans inB.1.symm) left right
    exact ⟨x, y, order, left, right, found, related⟩
  have builtIn {a : Value} (inA : a.kind = kind ∧ a.place?.isSome = true) (c : CustomValue) :
      a ≠ custom c := by
    rintro rfl
    cases inA.2
  refine ⟨?_, ?_, ?_, ?_⟩
  · intro a b inA inB
    obtain ⟨_, _, order, _, _, found, _⟩ := compared inA inB
    rw [found, Option.isSome_some]
  · intro a b inA _
    exact compare?_swap fun c _ isCustom _ => absurd isCustom (builtIn inA c)
  · intro a b c inA inB inC below further
    obtain ⟨x, y, first, placeA, placeB, found, related⟩ := compared inA inB
    obtain ⟨y', z, second, placeB', placeC, foundBC, relatedBC⟩ := compared inB inC
    obtain ⟨x', z', third, placeA', placeC', foundAC, relatedAC⟩ := compared inA inC
    cases placeB.symm.trans placeB'
    cases placeA.symm.trans placeA'
    cases placeC.symm.trans placeC'
    rw [found, Option.any_some] at below
    rw [foundBC, Option.any_some] at further
    rw [foundAC, Option.any_some]
    have lower : x ≤ y := (related .lessOrEqual).mp below
    have upper : y ≤ z := (relatedBC .lessOrEqual).mp further
    exact (relatedAC .lessOrEqual).mpr (lower.trans upper)
  · intro a b same inA inB decided
    obtain ⟨_, _, order, _, _, found, _⟩ := compared inA inB
    rw [found, Option.any_some]
    exact equals?_of_compare? (builtIn inA) found decided

/-- Custom values are ordered as values just as they are ordered by themselves. -/
theorem ordersTotally_custom {family : CustomValue → Prop}
    (total : OrdersTotally CustomValue.compare? CustomValue.equals? family) :
    OrdersTotally compare? equals? fun value => ∃ c, value = custom c ∧ family c := by
  refine ⟨?_, ?_, ?_, ?_⟩
  · rintro _ _ ⟨x, rfl, inX⟩ ⟨y, rfl, inY⟩
    exact total.decided inX inY
  · rintro _ _ ⟨x, rfl, inX⟩ ⟨y, rfl, inY⟩
    exact total.opposite inX inY
  · rintro _ _ _ ⟨x, rfl, inX⟩ ⟨y, rfl, inY⟩ ⟨z, rfl, inZ⟩
    exact total.transitive inX inY inZ
  · rintro _ _ _ ⟨x, rfl, inX⟩ ⟨y, rfl, inY⟩
    exact total.agrees inX inY

theorem place?_isSome {value : Value} (ordered : value.kind.comparability = .ordered) :
    value.place?.isSome = !value.isNaN := by
  cases value with
  | number n => exact n.place?_isSome
  | char c => rfl
  | dateTime ms => rfl
  | enum ordinal => rfl
  | _ => cases ordered

theorem isNull_of_compare? {a b : Value} {order : Ordering} (found : a.compare? b = some order) :
    a.isNull = false ∧ b.isNull = false := by
  cases a <;> cases b <;> first | exact ⟨rfl, rfl⟩ | cases found

section Total

variable {family : Value → Prop} (total : OrdersTotally compare? equals? family) {a b : Value}
  (inA : family a) (inB : family b)

include total inA inB

/-- Where the order is total, all six operators are read off it. -/
theorem satisfies_of_ordersTotally :
    ∃ order, a.compare? b = some order ∧ ∀ op, satisfies op a b = op.holds order := by
  obtain ⟨order, found⟩ := Option.isSome_iff_exists.mp (total.decided inA inB)
  obtain ⟨notNullA, notNullB⟩ := isNull_of_compare? found
  have equality : a.equal b = order.isEq := by
    simp only [equal, notNullA, notNullB, found]
    cases decided : a.equals? b with
    | none => rfl
    | some same =>
        have agreed := total.agrees inA inB decided
        rw [found, Option.any_some] at agreed
        exact agreed.symm
  have ordering : a.order? b = some order := by
    simp only [order?, notNullA, notNullB, found, Bool.or_self, Bool.false_eq_true, ↓reduceIte]
  refine ⟨order, found, ?_⟩
  intro op
  cases op with
  | equal => exact equality
  | notEqual =>
      rw [satisfies, equality]
      cases order <;> rfl
  | _ => simp only [satisfies, ordering, Option.any_some]

theorem satisfies_equal_iff : satisfies .equal a b = true ↔ a.compare? b = some .eq := by
  obtain ⟨order, found, holds⟩ := satisfies_of_ordersTotally total inA inB
  rw [holds, found]
  cases order <;> decide

theorem satisfies_lessThan_iff : satisfies .lessThan a b = true ↔ a.compare? b = some .lt := by
  obtain ⟨order, found, holds⟩ := satisfies_of_ordersTotally total inA inB
  rw [holds, found]
  cases order <;> decide

end Total

end Value

namespace ValueType

/-- A value that takes part in the order of a type: it is neither null nor a float that is not a
number, and if it is a custom value, one of a given implementation. -/
structure Ranks (t : ValueType) (implementation : CustomValue → Prop) (value : Value) : Prop where
  admitted : t.admits value = true
  notNull : value.isNull = false
  notNaN : value.isNaN = false
  implemented : ∀ c, value = .custom c → implementation c

theorem comparability_underlying (t : ValueType) :
    t.underlying.comparability = t.comparability := by
  cases t <;> rfl

/-- The values of an ordered type are totally ordered, if those of its implementation are. -/
theorem ordersTotally_of_ordered {t : ValueType} {implementation : CustomValue → Prop}
    (ordered : t.comparability = .ordered)
    (total : OrdersTotally CustomValue.compare? CustomValue.equals? implementation) :
    OrdersTotally Value.compare? Value.equals? (t.Ranks implementation) := by
  rw [← comparability_underlying] at ordered
  have held {value : Value} (ranks : t.Ranks implementation value) :
      t.underlying.holds false value = true := holds_of_admits ranks.admitted ranks.notNull
  by_cases isCustom : ∃ type, t.underlying = custom type
  · obtain ⟨type, isType⟩ := isCustom
    apply (Value.ordersTotally_custom total).mono
    intro value ranks
    obtain ⟨c, rfl, -⟩ := custom_of_holds (isType ▸ held ranks) ranks.notNull
    exact ⟨c, rfl, ranks.implemented c rfl⟩
  · apply (Value.ordersTotally_of_place t.underlying.kind).mono
    intro value ranks
    have sameKind := kind_of_holds (held ranks) ranks.notNull
    rw [comparability_eq_kind (fun type isType => isCustom ⟨type, isType⟩)
      (ne_nullable_of_holds (held ranks)), ← sameKind] at ordered
    refine ⟨sameKind, ?_⟩
    rw [Value.place?_isSome ordered, ranks.notNaN]
    rfl

end ValueType

/-- Of the three strict relations exactly one holds of values that compare in some way. -/
theorem CompareOp.existsUnique_holds (order : Ordering) :
    ∃! op : CompareOp, op ∈ [lessThan, equal, greaterThan] ∧ op.holds order = true := by
  have unique (wanted : CompareOp) (holds : wanted.holds order = true)
      (member : wanted ∈ [lessThan, equal, greaterThan]) :
      ∃! op : CompareOp, op ∈ [lessThan, equal, greaterThan] ∧ op.holds order = true := by
    refine ⟨wanted, ⟨member, holds⟩, ?_⟩
    rintro op ⟨otherMember, otherHolds⟩
    cases order <;> cases wanted <;> cases op <;> simp_all [CompareOp.holds]
  cases order with
  | lt => exact unique lessThan rfl (by simp)
  | eq => exact unique equal rfl (by simp)
  | gt => exact unique greaterThan rfl (by simp)

/-- The six operators are a total order on the values of every ordered type, null and floats that
are no numbers apart: exactly one of less, equal and greater holds, the weak operators add equality
to the strict ones, a mirrored operator says the same of exchanged values, and equality and less are
transitive. Decimals are ordered as the numbers they stand for, whatever their scales. Of custom
values it is assumed that their own order is total and that their equality, if any, agrees with
it. -/
theorem operators_order_totally :
    (∀ (t : ValueType) (implementation : CustomValue → Prop) (a b c : Value),
      t.comparability = .ordered →
      OrdersTotally CustomValue.compare? CustomValue.equals? implementation →
      t.Ranks implementation a → t.Ranks implementation b → t.Ranks implementation c →
      (∃! op, op ∈ [CompareOp.lessThan, .equal, .greaterThan] ∧ Value.satisfies op a b = true) ∧
      Value.satisfies .lessOrEqual a b =
        (Value.satisfies .lessThan a b || Value.satisfies .equal a b) ∧
      Value.satisfies .greaterOrEqual a b =
        (Value.satisfies .greaterThan a b || Value.satisfies .equal a b) ∧
      (∀ op : CompareOp, Value.satisfies op.mirrored b a = Value.satisfies op a b) ∧
      (Value.satisfies .equal a b = true → Value.satisfies .equal b c = true →
        Value.satisfies .equal a c = true) ∧
      (Value.satisfies .lessThan a b = true → Value.satisfies .lessThan b c = true →
        Value.satisfies .lessThan a c = true)) ∧
    ∀ (d e : Decimal) (op : CompareOp),
      Value.satisfies op (.number (.decimal d)) (.number (.decimal e)) = true ↔
        op.Relates d.toRat e.toRat := by
  constructor
  · intro t implementation a b c ordered implemented inA inB inC
    have total := ValueType.ordersTotally_of_ordered ordered implemented
    obtain ⟨order, found, holds⟩ := Value.satisfies_of_ordersTotally total inA inB
    obtain ⟨back, foundBA, holdsBA⟩ := Value.satisfies_of_ordersTotally total inB inA
    refine ⟨?_, ?_, ?_, ?_, ?_, ?_⟩
    · simp only [holds]
      exact CompareOp.existsUnique_holds order
    · simp only [holds]
      cases order <;> rfl
    · simp only [holds]
      cases order <;> rfl
    · intro op
      have opposite := total.opposite inA inB
      rw [foundBA, found, Option.map_some, Option.some.injEq] at opposite
      rw [holdsBA, holds, opposite, CompareOp.holds_mirrored_swap]
    · rw [Value.satisfies_equal_iff total inA inB, Value.satisfies_equal_iff total inB inC,
        Value.satisfies_equal_iff total inA inC]
      exact total.eq_trans inA inB inC
    · rw [Value.satisfies_lessThan_iff total inA inB, Value.satisfies_lessThan_iff total inB inC,
        Value.satisfies_lessThan_iff total inA inC]
      exact total.lt_trans inA inB inC
  · intro d e op
    have kinds : (Value.number (.decimal d)).kind = .number .decimal ∧
        (Value.number (.decimal e)).kind = .number .decimal := ⟨rfl, rfl⟩
    exact Value.satisfies_exact kinds rfl rfl op

/-- Versions, which have an order and no equality of their own. -/
def CustomValue.IsVersion (c : CustomValue) : Prop := ∃ identity number, c = version identity number

theorem CustomValue.ordersTotally_version : OrdersTotally compare? equals? IsVersion where
  decided := by
    rintro _ _ ⟨_, m, rfl⟩ ⟨_, n, rfl⟩
    rfl
  opposite := by
    rintro _ _ ⟨_, m, rfl⟩ ⟨_, n, rfl⟩
    exact congrArg some Std.OrientedCmp.eq_swap
  transitive := by
    rintro _ _ _ ⟨_, l, rfl⟩ ⟨_, m, rfl⟩ ⟨_, n, rfl⟩ below further
    exact @Std.TransCmp.isLE_trans Int compare _ _ _ _ below further
  agrees := by
    rintro _ _ _ ⟨_, m, rfl⟩ ⟨_, n, rfl⟩ decided
    nomatch decided

def thirdVersion : Value := .custom (.version 2 3)

def versionOrNull : ValueType := .nullable (.custom ⟨"Version", .ordered, false⟩)

theorem operators_order_totally_versions :
    versionOrNull.comparability = .ordered ∧
      OrdersTotally CustomValue.compare? CustomValue.equals? CustomValue.IsVersion ∧
      versionOrNull.Ranks CustomValue.IsVersion firstVersion ∧
      versionOrNull.Ranks CustomValue.IsVersion secondVersion ∧
      versionOrNull.Ranks CustomValue.IsVersion thirdVersion ∧
      Value.satisfies .greaterThan secondVersion firstVersion = true ∧
      Value.satisfies .lessThan firstVersion thirdVersion = true := by
  have ranks (identity number : Nat) :
      versionOrNull.Ranks CustomValue.IsVersion (.custom (.version identity number)) := by
    refine ⟨rfl, rfl, rfl, ?_⟩
    rintro c ⟨⟩
    exact ⟨identity, number, rfl⟩
  obtain ⟨-, -, -, mirrored, -, transitive⟩ := operators_order_totally.1 _ _ _ _ _ rfl
    CustomValue.ordersTotally_version (ranks 0 1) (ranks 1 2) (ranks 2 3)
  exact ⟨rfl, CustomValue.ordersTotally_version, ranks 0 1, ranks 1 2, ranks 2 3,
    mirrored .lessThan, transitive rfl rfl⟩

end RecordFilter
