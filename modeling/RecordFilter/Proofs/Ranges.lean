import RecordFilter.Proofs.Order
import RecordFilter.Proofs.Sides

set_option autoImplicit false

/-!
Ranges are made of comparisons. Each end of a range does what a comparison with that end does under
the same rules. The range accepts what both comparisons accept; reversed, it accepts what one of
them accepts, where a comparison that is ignored has no say unless both are.
-/

namespace RecordFilter

theorem Expr.eval_convertIf (operand : Expr) (target : Option NumericType) (entity : Record)
    (filter : Option Record) :
    (operand.convertIf target).eval entity filter =
      ((operand.eval entity filter).widenIf? target).getD .null := by
  cases target <;> rfl

theorem Value.eq_custom_of_widenIf? {value : Value} {target : Option NumericType}
    {custom : CustomValue} (converted : (value.widenIf? target).getD .null = .custom custom) :
    value = .custom custom := by
  cases target with
  | none => exact converted
  | some target =>
      cases value with
      | number n => cases found : n.convert target <;> simp [widenIf?, widen, found] at converted
      | _ => simp [widenIf?, widen] at converted

namespace CompiledBinding

/-- A binding of one side that decides what one side of another binding decides, and that is
ignored also where that side does not count. -/
structure IsPart (part whole : CompiledBinding) (side : Side) (filter entity : Record) : Prop where
  rules : part.rules = whole.rules
  single : ∃ own, part.sides = [own] ∧ own.guard = none ∧
    own.accepts whole.rules filter entity = side.accepts whole.rules filter entity
  ignored : part.isIgnored filter = (whole.isIgnored filter || !side.isActive filter)

section Parts

variable {whole first second : CompiledBinding} {lower upper : Side} {filter entity : Record}

theorem IsPart.accepts (isPart : first.IsPart whole lower filter entity) :
    first.accepts filter entity =
      (first.isIgnored filter || lower.accepts whole.rules filter entity) := by
  obtain ⟨own, single, unguarded, same⟩ := isPart.single
  rw [accepts_of_single filter entity single unguarded, isPart.rules, same]

variable (pair : whole.sides = [lower, upper])
  (isFirst : first.IsPart whole lower filter entity)
  (isSecond : second.IsPart whole upper filter entity)

include pair isFirst isSecond

theorem accepts_of_parts (straight : whole.rules.isReversed filter = false) :
    whole.accepts filter entity =
      (first.accepts filter entity && second.accepts filter entity) := by
  rw [accepts_of_pair filter entity pair straight, isFirst.accepts, isSecond.accepts,
    isFirst.ignored, isSecond.ignored]
  cases whole.isIgnored filter <;> simp

theorem accepts_of_reversed_parts (reversed : whole.rules.isReversed filter = true) :
    whole.accepts filter entity =
      (first.accepts filter entity && !first.isIgnored filter ||
        second.accepts filter entity && !second.isIgnored filter ||
        first.isIgnored filter && second.isIgnored filter) := by
  rw [accepts_of_reversed_pair filter entity pair reversed, isFirst.accepts, isSecond.accepts,
    isFirst.ignored, isSecond.ignored]
  cases whole.isIgnored filter <;> cases lower.isActive filter <;> cases upper.isActive filter <;>
    simp

end Parts

end CompiledBinding

theorem Binding.isIgnored_compare (property bound : Property) (op : CompareOp)
    (plan : ConversionPlan) (rules : Rules) (filter : Record) :
    (⟨.compare property bound op plan, rules⟩ : Binding).compile.isIgnored filter =
      (rules.drops filter || (rules.usesDefaultIgnore && bound.isNullIn filter)) := by
  rw [isIgnored_compile, ← Property.ignoreIndex_any]
  rfl

namespace RangeSide

/-- The comparison of an entity property with one end of a range set by the filter. -/
def comparison (side : RangeSide) (entity : Property) (op : CompareOp) (rules : Rules) : Binding :=
  ⟨.compare entity side.bound op side.plan, rules⟩

/-- The comparison of one end of a range set by the entity with a filter property. The end comes
first here, so the operator is the mirror image. -/
def mirroredComparison (side : RangeSide) (filter : Property) (op : CompareOp) (rules : Rules) :
    Binding :=
  ⟨.compare side.bound filter op.mirrored side.plan, rules⟩

variable (side : RangeSide) (rules : Rules) {filter entity : Record}

/-- A comparison is part of each range that has its end. -/
theorem isPart_comparison (property : Property) (op : CompareOp) {range : CompiledBinding}
    (sameRules : range.rules = rules) (ignored : range.isIgnored filter = rules.drops filter) :
    (side.comparison property op rules).compile.IsPart range
      (.ofFilterEnd property rules side op) filter entity := by
  refine ⟨sameRules.symm, ⟨_, rfl, rfl, rfl⟩, ?_⟩
  rw [comparison, Binding.isIgnored_compare, ignored, Side.isActive_ofFilterEnd, Bool.not_not]

/-- As conditions of the two records, the end of a range set by the entity and the mirrored
comparison say the same. -/
theorem holds_mirrored (property : Property) {op : CompareOp} (ordering : op.isOrdering = true)
    (antisymmetric : (filter.get property.index).Antisymmetric (entity.get side.bound.index)) :
    (Expr.compare op.mirrored (.convertIf (.field side.bound.index) side.plan.entity)
        (.convertIf (.filterField property.index) side.plan.filter)).holds entity (some filter) =
      (Expr.compare op (.convertIf (.filterField property.index) side.plan.filter)
        (.convertIf (.field side.bound.index) side.plan.entity)).holds entity (some filter) := by
  simp only [Expr.holds, Expr.eval, Expr.eval_convertIf, Option.elim, Value.isTrue]
  apply Value.satisfies_mirrored ordering
  intro x y first second
  exact antisymmetric x y (Value.eq_custom_of_widenIf? first) (Value.eq_custom_of_widenIf? second)

theorem isPart_mirroredComparison (property : Property) {op : CompareOp}
    (ordering : op.isOrdering = true) {range : CompiledBinding} (sameRules : range.rules = rules)
    (ignored : range.isIgnored filter =
      (side.mirroredComparison property op rules).compile.isIgnored filter)
    (antisymmetric : (filter.get property.index).Antisymmetric (entity.get side.bound.index)) :
    (side.mirroredComparison property op rules).compile.IsPart range
      (.ofEntityEnd property side op) filter entity := by
  refine ⟨sameRules.symm, ⟨_, rfl, rfl, ?_⟩, ?_⟩
  · have inverse := side.holds_mirrored property (op.isOrdering_inverse.trans ordering)
      antisymmetric
    rw [← CompareOp.inverse_mirrored] at inverse
    apply Side.accepts_congr
    · rfl
    · exact side.holds_mirrored property ordering antisymmetric
    · exact inverse
  · rw [ignored, Side.isActive_of_unguarded rfl, Bool.not_true, Bool.or_false]

end RangeSide

section FilterRange

variable (property : Property) (min max : RangeSide) (rules : Rules) (filter entity : Record)

theorem Binding.isIgnored_filterRange :
    (⟨.filterRange property min max, rules⟩ : Binding).compile.isIgnored filter =
      rules.drops filter :=
  Bool.or_false _

theorem Binding.accepts_filterRange (straight : rules.isReversed filter = false) :
    (⟨.filterRange property min max, rules⟩ : Binding).accepts filter entity =
      ((min.comparison property min.kind.lowerOp rules).accepts filter entity &&
        (max.comparison property max.kind.upperOp rules).accepts filter entity) := by
  have ignored := isIgnored_filterRange property min max rules filter
  exact CompiledBinding.accepts_of_parts rfl
    (min.isPart_comparison rules property _ rfl ignored)
    (max.isPart_comparison rules property _ rfl ignored) straight

end FilterRange

/-- What it is for a range to be made of two comparisons, given which bindings accept and which are
ignored. -/
structure IsMadeOf (accepts ignored : Binding → Prop) (isReversed : Bool)
    (range lower upper : Binding) : Prop where
  straight : isReversed = false → (accepts range ↔ accepts lower ∧ accepts upper)
  reversed : isReversed = true →
    (accepts range ↔ (accepts lower ∧ ¬ignored lower) ∨ (accepts upper ∧ ¬ignored upper) ∨
      (ignored lower ∧ ignored upper))

section Records

variable {entityShape filterShape : Shape} {filter entity : Record}
  (ofFilter : filter.shape.name = filterShape.name)
  (ofEntity : entity.shape.name = entityShape.name)

include ofFilter ofEntity

theorem isMadeOf_of_parts {range lower upper : Binding} {lowerSide upperSide : Side}
    (pair : range.compile.sides = [lowerSide, upperSide])
    (isLower : lower.compile.IsPart range.compile lowerSide filter entity)
    (isUpper : upper.compile.IsPart range.compile upperSide filter entity) :
    IsMadeOf
      (fun binding => (CompiledFilter.compile entityShape filterShape [binding]).accepts filter
        entity = .ok true)
      (fun binding => binding.compile.isIgnored filter = true)
      (range.compile.rules.isReversed filter) range lower upper := by
  constructor
  · intro straight
    simp only [CompiledFilter.accepts_single _ ofFilter ofEntity, Except.ok.injEq, Binding.accepts,
      CompiledBinding.accepts_of_parts pair isLower isUpper straight, Bool.and_eq_true]
  · intro reversed
    simp only [CompiledFilter.accepts_single _ ofFilter ofEntity, Except.ok.injEq, Binding.accepts,
      CompiledBinding.accepts_of_reversed_parts pair isLower isUpper reversed, Bool.or_eq_true,
      Bool.and_eq_true, Bool.not_eq_true', Bool.not_eq_true, or_assoc]

/-- Ranges are made of comparisons. A range set by the filter is made of the comparisons of the
entity's value with the two ends; a range set by the entity, of the comparisons of the two ends with
the filter's value under the mirrored operators, if custom values at the ends and in the filter are
ordered the same way from either side. The plans and the rules are the same. -/
theorem ranges_are_made_of_comparisons (rules : Rules) :
    (∀ (property : Property) (min max : RangeSide),
      IsMadeOf
        (fun binding => (CompiledFilter.compile entityShape filterShape [binding]).accepts filter
          entity = .ok true)
        (fun binding => binding.compile.isIgnored filter = true) (rules.isReversed filter)
        ⟨.filterRange property min max, rules⟩
        (min.comparison property min.kind.lowerOp rules)
        (max.comparison property max.kind.upperOp rules)) ∧
    ∀ (property : Property) (min max : RangeSide),
      (filter.get property.index).Antisymmetric (entity.get min.bound.index) →
      (filter.get property.index).Antisymmetric (entity.get max.bound.index) →
      IsMadeOf
        (fun binding => (CompiledFilter.compile entityShape filterShape [binding]).accepts filter
          entity = .ok true)
        (fun binding => binding.compile.isIgnored filter = true) (rules.isReversed filter)
        ⟨.entityRange property min max, rules⟩
        (min.mirroredComparison property min.kind.lowerOp rules)
        (max.mirroredComparison property max.kind.upperOp rules) := by
  constructor
  · intro property min max
    have ignored := Binding.isIgnored_filterRange property min max rules filter
    exact isMadeOf_of_parts ofFilter ofEntity rfl
      (min.isPart_comparison rules property _ rfl ignored)
      (max.isPart_comparison rules property _ rfl ignored)
  · intro property min max atMin atMax
    have sides : (⟨.entityRange property min max, rules⟩ : Binding).compile.sides =
        [.ofEntityEnd property min min.kind.lowerOp, .ofEntityEnd property max max.kind.upperOp] :=
      rfl
    exact isMadeOf_of_parts ofFilter ofEntity sides
      (min.isPart_mirroredComparison rules property min.kind.isOrdering_lowerOp rfl rfl atMin)
      (max.isPart_mirroredComparison rules property max.kind.isOrdering_upperOp rfl rfl atMax)

end Records

/-- What is asked of books by two years, of different types. -/
def periodShape : Shape :=
  ⟨"Period", [⟨"From", .nullable (.numeric .u32)⟩, ⟨"To", .nullable (.numeric .decimal)⟩],
    by decide⟩

/-- From 1970 on. -/
def sinceTheSeventies : Record :=
  ⟨periodShape, [.number (.integer ⟨false, .w32⟩ ⟨1970, by decide, by decide⟩), .null], rfl⟩

def bookYear : Property := ⟨"Year", 1, .nullable (.numeric .i32)⟩

def periodStart : RangeSide :=
  ⟨⟨"From", 0, .nullable (.numeric .u32)⟩, .inclusive, ⟨some .i64, some .i64, true, true⟩⟩

def periodEnd : RangeSide :=
  ⟨⟨"To", 1, .nullable (.numeric .decimal)⟩, .exclusive, ⟨some .decimal, none, true, true⟩⟩

/-- Releases of a program and the versions they work with. -/
def releaseShape : Shape :=
  ⟨"Release", [⟨"First", .custom ⟨"Version", .ordered, false⟩⟩,
    ⟨"Last", .nullable (.custom ⟨"Version", .ordered, false⟩)⟩], by decide⟩

def versionShape : Shape :=
  ⟨"Wanted", [⟨"Version", .custom ⟨"Version", .ordered, false⟩⟩], by decide⟩

def release : Record := ⟨releaseShape, [firstVersion, secondVersion], rfl⟩

def firstWanted : Record := ⟨versionShape, [firstVersion], rfl⟩

def wantedVersion : Property := ⟨"Version", 0, .custom ⟨"Version", .ordered, false⟩⟩

def releaseFirst : RangeSide :=
  ⟨⟨"First", 0, .custom ⟨"Version", .ordered, false⟩⟩, .inclusive, ⟨none, none, false, false⟩⟩

def releaseLast : RangeSide :=
  ⟨⟨"Last", 1, .nullable (.custom ⟨"Version", .ordered, false⟩)⟩, .exclusive,
    ⟨none, none, true, false⟩⟩

/-- Dune lies before the start, and the end is not set. Versions are ordered the same way from
either side. -/
theorem ranges_are_made_of_comparisons_examples :
    (CompiledFilter.compile bookShape periodShape
        [⟨.filterRange bookYear periodStart periodEnd,
          { reverseIf := some fun _ => true }⟩]).accepts
      sinceTheSeventies dune = .ok true ∧
    (CompiledFilter.compile releaseShape versionShape
        [⟨.entityRange wantedVersion releaseFirst releaseLast, {}⟩]).accepts
      firstWanted release = .ok true := by
  constructor
  · have made := (ranges_are_made_of_comparisons
      (rfl : sinceTheSeventies.shape.name = periodShape.name)
      (rfl : dune.shape.name = bookShape.name)
      { reverseIf := some fun _ => true }).1 bookYear periodStart periodEnd
    exact (made.reversed rfl).mpr (Or.inl ⟨rfl, Bool.false_ne_true⟩)
  · have made := (ranges_are_made_of_comparisons
      (rfl : firstWanted.shape.name = versionShape.name)
      (rfl : release.shape.name = releaseShape.name) {}).2 wantedVersion releaseFirst releaseLast
      (by rintro _ _ ⟨⟩ ⟨⟩; rfl) (by rintro _ _ ⟨⟩ ⟨⟩; rfl)
    exact (made.straight rfl).mpr ⟨rfl, rfl⟩

end RecordFilter
