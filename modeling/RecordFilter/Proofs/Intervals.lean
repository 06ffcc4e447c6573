import Mathlib.Order.Interval.Set.Defs
import RecordFilter.Proofs.Exactness
import RecordFilter.Proofs.Ranges

set_option autoImplicit false

/-!
Comparisons of integers and decimals are exact. A comparison that is accepted for two such types
accepts an entity just when the operator holds between the two numbers, and a range accepts the
numbers of an interval, also when its two ends convert the entity's value to different types.
-/

namespace RecordFilter

/-- The numbers between two others, of which each belongs to the interval or not. -/
def RangeBound.interval (lower upper : RangeBound) (first last : Rat) : Set Rat :=
  match lower, upper with
  | inclusive, inclusive => Set.Icc first last
  | inclusive, exclusive => Set.Ico first last
  | exclusive, inclusive => Set.Ioc first last
  | exclusive, exclusive => Set.Ioo first last

theorem RangeBound.mem_interval_iff (lower upper : RangeBound) (first last x : Rat) :
    x ∈ lower.interval upper first last ↔
      lower.lowerOp.Relates x first ∧ upper.upperOp.Relates x last := by
  cases lower <;> cases upper <;> rfl

/-- An entity property and a filter property of integers or decimals that the operator may compare
by a plan. The filter record has a value to compare with. -/
structure ComparesNumbers (property bound : Property) (op : CompareOp) (plan : ConversionPlan)
    (entity filter : Record) : Prop where
  noFloat : property.type.isExact = true ∧ bound.type.isExact = true
  accepted : property.type.comparisonPlan bound.type op = .ok plan
  admitted : property.type.admits (entity.get property.index) = true ∧
    bound.type.admits (filter.get bound.index) = true
  isSet : (filter.get bound.index).isNull = false

namespace Binding

variable {property bound : Property} {op : CompareOp} {plan : ConversionPlan}
  {filter entity : Record}

theorem accepts_compare_of_set (isSet : (filter.get bound.index).isNull = false) :
    (⟨.compare property bound op plan, {}⟩ : Binding).accepts filter entity =
      Value.satisfies op (((entity.get property.index).widenIf? plan.entity).getD .null)
        (((filter.get bound.index).widenIf? plan.filter).getD .null) := by
  have kept : (⟨.compare property bound op plan, {}⟩ : Binding).compile.isIgnored filter =
      false := by
    rw [isIgnored_compare, Property.isNullIn, isSet, Bool.and_false, Bool.and_false]
    rfl
  rw [accepts, CompiledBinding.accepts_of_plain filter entity rfl rfl kept rfl rfl]
  simp only [Side.comparing, Expr.holds, Expr.eval, Expr.eval_convertIf, Option.elim, Value.isTrue]

theorem accepts_compare_of_null (isSet : (filter.get bound.index).isNull = false)
    (isNull : (entity.get property.index).isNull = true) (ordering : op.isOrdering = true) :
    (⟨.compare property bound op plan, {}⟩ : Binding).accepts filter entity = false := by
  have null := Value.eq_null_of_isNull isNull
  rw [accepts_compare_of_set isSet, null, Value.satisfies_of_isOrdering ordering]
  cases plan.entity <;> rfl

theorem accepts_compare_exact (compares : ComparesNumbers property bound op plan entity filter)
    (present : (entity.get property.index).isNull = false) :
    ∃ x y v w, (entity.get property.index).rational? = some x ∧
      (filter.get bound.index).rational? = some y ∧
      (entity.get property.index).widenIf? plan.entity = some v ∧ v.rational? = some x ∧
      (filter.get bound.index).widenIf? plan.filter = some w ∧ w.rational? = some y ∧
      ((⟨.compare property bound op plan, {}⟩ : Binding).accepts filter entity = true ↔
        op.Relates x y) := by
  obtain ⟨x, y, v, w, isX, isY, widenV, keptV, widenW, keptW, related⟩ :=
    ValueType.exact_of_comparisonPlan compares.noFloat compares.accepted compares.admitted
      ⟨present, compares.isSet⟩
  refine ⟨x, y, v, w, isX, isY, widenV, keptV, widenW, keptW, ?_⟩
  rw [accepts_compare_of_set compares.isSet, widenV, widenW, Option.getD_some, Option.getD_some,
    related]

theorem accepts_ordering_exact (compares : ComparesNumbers property bound op plan entity filter)
    (ordering : op.isOrdering = true) :
    ∃ y, (filter.get bound.index).rational? = some y ∧
      ((⟨.compare property bound op plan, {}⟩ : Binding).accepts filter entity = true ↔
        ∃ x, (entity.get property.index).rational? = some x ∧ op.Relates x y) := by
  cases isNull : (entity.get property.index).isNull with
  | true =>
      obtain ⟨y, isY⟩ := ValueType.rational?_of_admits compares.noFloat.2 compares.admitted.2
        compares.isSet
      have null := Value.eq_null_of_isNull isNull
      refine ⟨y, isY, ?_⟩
      rw [accepts_compare_of_null compares.isSet isNull ordering, null]
      simp [Value.rational?]
  | false =>
      obtain ⟨x, y, _, _, isX, isY, _, _, _, _, accepted⟩ := accepts_compare_exact compares isNull
      refine ⟨y, isY, ?_⟩
      rw [accepted, isX]
      simp

/-- By default rules, a range whose ends are set accepts the numbers of its interval and nothing
else. -/
theorem accepts_filterRange_exact {min max : RangeSide}
    (lower : ComparesNumbers property min.bound min.kind.lowerOp min.plan entity filter)
    (upper : ComparesNumbers property max.bound max.kind.upperOp max.plan entity filter) :
    ∃ first last, (filter.get min.bound.index).rational? = some first ∧
      (filter.get max.bound.index).rational? = some last ∧
      ((⟨.filterRange property min max, {}⟩ : Binding).accepts filter entity = true ↔
        ∃ x ∈ min.kind.interval max.kind first last,
          (entity.get property.index).rational? = some x) := by
  obtain ⟨first, isFirst, above⟩ := accepts_ordering_exact lower min.kind.isOrdering_lowerOp
  obtain ⟨last, isLast, below⟩ := accepts_ordering_exact upper max.kind.isOrdering_upperOp
  refine ⟨first, last, isFirst, isLast, ?_⟩
  rw [accepts_filterRange property min max {} filter entity rfl, Bool.and_eq_true,
    RangeSide.comparison, RangeSide.comparison, above, below]
  simp only [RangeBound.mem_interval_iff]
  constructor
  · rintro ⟨⟨x, isX, afterFirst⟩, ⟨y, isY, beforeLast⟩⟩
    rw [isX] at isY
    cases isY
    exact ⟨x, ⟨afterFirst, beforeLast⟩, isX⟩
  · rintro ⟨x, ⟨afterFirst, beforeLast⟩, isX⟩
    exact ⟨⟨x, isX, afterFirst⟩, ⟨x, isX, beforeLast⟩⟩

end Binding

/-- Comparisons of integers and decimals are exact. When a comparison is accepted for two such types
and both values are there, the conversions yield the numbers that the values are, and by default
rules the filter accepts an entity just when the operator holds between the two. A range with both
of its ends, each compared by its own plan, accepts just the numbers of its interval. -/
theorem comparisons_of_numbers_are_exact {entityShape filterShape : Shape} {filter entity : Record}
    (ofFilter : filter.shape.name = filterShape.name)
    (ofEntity : entity.shape.name = entityShape.name) :
    (∀ (property bound : Property) (op : CompareOp) (plan : ConversionPlan),
      ComparesNumbers property bound op plan entity filter →
      (entity.get property.index).isNull = false →
      ∃ x y v w, (entity.get property.index).rational? = some x ∧
        (filter.get bound.index).rational? = some y ∧
        (entity.get property.index).widenIf? plan.entity = some v ∧ v.rational? = some x ∧
        (filter.get bound.index).widenIf? plan.filter = some w ∧ w.rational? = some y ∧
        ∃ accepted,
          (CompiledFilter.compile entityShape filterShape
            [⟨.compare property bound op plan, {}⟩]).accepts filter entity = .ok accepted ∧
          (accepted = true ↔ op.Relates x y)) ∧
    ∀ (property : Property) (min max : RangeSide),
      ComparesNumbers property min.bound min.kind.lowerOp min.plan entity filter →
      ComparesNumbers property max.bound max.kind.upperOp max.plan entity filter →
      ∃ first last, (filter.get min.bound.index).rational? = some first ∧
        (filter.get max.bound.index).rational? = some last ∧
        ∃ accepted,
          (CompiledFilter.compile entityShape filterShape
            [⟨.filterRange property min max, {}⟩]).accepts filter entity = .ok accepted ∧
          (accepted = true ↔ ∃ x ∈ min.kind.interval max.kind first last,
            (entity.get property.index).rational? = some x) := by
  have answer := fun binding => CompiledFilter.accepts_single binding ofFilter ofEntity
  constructor
  · intro property bound op plan compares present
    obtain ⟨x, y, v, w, isX, isY, widenV, keptV, widenW, keptW, accepted⟩ :=
      Binding.accepts_compare_exact compares present
    exact ⟨x, y, v, w, isX, isY, widenV, keptV, widenW, keptW, _, answer _, accepted⟩
  · intro property min max lower upper
    obtain ⟨first, last, isFirst, isLast, accepted⟩ :=
      Binding.accepts_filterRange_exact lower upper
    exact ⟨first, last, isFirst, isLast, _, answer _, accepted⟩

/-- From 1961 on, until the middle of 1969. -/
def throughTheSixties : Record :=
  ⟨periodShape, [.number (.integer ⟨false, .w32⟩ ⟨1961, by decide, by decide⟩),
    .number (.decimal ⟨false, 19695, 1, by decide, by decide⟩)], rfl⟩

/-- Dune is from 1965, before the middle of 1969 and in between. -/
theorem comparisons_of_numbers_are_exact_dune :
    (CompiledFilter.compile bookShape periodShape
        [⟨.compare bookYear periodEnd.bound .lessThan periodEnd.plan, {}⟩]).accepts
      throughTheSixties dune = .ok true ∧
    (CompiledFilter.compile bookShape periodShape
        [⟨.filterRange bookYear periodStart periodEnd, {}⟩]).accepts throughTheSixties dune =
      .ok true := by
  have start : ComparesNumbers bookYear periodStart.bound periodStart.kind.lowerOp
      periodStart.plan dune throughTheSixties :=
    ⟨⟨rfl, rfl⟩, rfl, ⟨rfl, rfl⟩, rfl⟩
  have stop : ComparesNumbers bookYear periodEnd.bound .lessThan periodEnd.plan dune
      throughTheSixties :=
    ⟨⟨rfl, rfl⟩, rfl, ⟨rfl, rfl⟩, rfl⟩
  have ofFilter : throughTheSixties.shape.name = periodShape.name := rfl
  have ofEntity : dune.shape.name = bookShape.name := rfl
  obtain ⟨compared, ranged⟩ := comparisons_of_numbers_are_exact ofFilter ofEntity
  constructor
  · obtain ⟨x, y, _, _, isX, isY, _, _, _, _, accepted, answer, accepts⟩ :=
      compared bookYear periodEnd.bound .lessThan periodEnd.plan stop rfl
    cases isX
    cases isY
    have before : CompareOp.lessThan.Relates 1965 (19695 / 10 ^ 1) := by
      norm_num [CompareOp.Relates]
    rw [answer, accepts.mpr (by exact_mod_cast before)]
  · obtain ⟨first, last, isFirst, isLast, accepted, answer, accepts⟩ :=
      ranged bookYear periodStart periodEnd start stop
    cases isFirst
    cases isLast
    have inside : (1965 : Rat) ∈
        RangeBound.inclusive.interval .exclusive 1961 (19695 / 10 ^ 1) := by
      norm_num [RangeBound.interval]
    rw [answer, accepts.mpr ⟨1965, by exact_mod_cast inside, rfl⟩]

end RecordFilter
