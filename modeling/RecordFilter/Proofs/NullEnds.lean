import RecordFilter.Declaration
import RecordFilter.Proofs.Exactness
import RecordFilter.Proofs.Negation
import RecordFilter.Proofs.Nulls

set_option autoImplicit false

/-!
Null ends of a range set by the entity. Where the rules reject null values, each side tests its own
end for null, and no other. A range that is not reversed asks for both sides, so one null end
rejects the entity. A reversed one asks for one of the sides: with one end null it accepts the
entities whose other end leaves the filter's value outside.
-/

namespace RecordFilter

theorem Value.order?_null_right (value : Value) : value.order? .null = none := by
  cases value <;> rfl

namespace RangeSide

variable {side : RangeSide} {property : Property} {op : CompareOp} {filter entity : Record}

/-- Whether an operator holds between the filter's value and an end set by the entity, after their
conversions. -/
def holds (side : RangeSide) (property : Property) (op : CompareOp) (filter entity : Record) :
    Bool :=
  Value.satisfies op (filter.converted property side.plan.filter)
    (entity.converted side.bound side.plan.entity)

theorem holds_of_isNull (isNull : (entity.get side.bound.index).isNull = true)
    (ordering : op.isOrdering = true) : side.holds property op filter entity = false := by
  have null : entity.converted side.bound side.plan.entity = .null := by
    rw [Record.converted, Value.eq_null_of_isNull isNull]
    cases side.plan.entity <;> rfl
  rw [holds, null, Value.satisfies_of_isOrdering ordering, Value.order?_null_right, Option.any_none]

theorem isNull_eq_false_of_holds (ordering : op.isOrdering = true)
    (related : side.holds property op filter entity = true) :
    (entity.get side.bound.index).isNull = false := by
  cases isNull : (entity.get side.bound.index).isNull with
  | false => rfl
  | true =>
      rw [holds_of_isNull isNull ordering] at related
      nomatch related

theorem holds_compare (side : RangeSide) (property : Property) (op : CompareOp)
    (filter entity : Record) :
    (Expr.compare op (.convertIf (.filterField property.index) side.plan.filter)
        (.convertIf (.field side.bound.index) side.plan.entity)).holds entity (some filter) =
      side.holds property op filter entity := by
  simp only [Expr.holds, Expr.eval, Expr.eval_convertIf_filterField, Expr.eval_convertIf_field,
    Value.isTrue, holds]

end RangeSide

section Rejecting

variable {rules : Rules} {filter : Record} (rejecting : rules.nullDecision filter = some false)

include rejecting

theorem Side.accepts_of_rejecting (side : Side) (entity : Record) :
    side.accepts rules filter entity =
      (side.nullOperand.all (fun index => !(entity.get index).isNull) &&
        (if rules.isReversed filter then side.inverse else side.normal).holds entity
          (some filter)) := by
  rw [← Expr.holds_bind]
  unfold accepts condition
  rw [rejecting]
  cases side.nullOperand with
  | none => rfl
  | some index => simp [Expr.holds, Expr.eval, Value.isTrue]

/-- For an end set by the entity the ordering alone already asks for a value. -/
theorem Side.accepts_ofEntityEnd (property : Property) (entity : Record) (side : RangeSide)
    {op : CompareOp} (ordering : op.isOrdering = true) :
    (Side.ofEntityEnd property side op).accepts rules filter entity =
      side.holds property (if rules.isReversed filter then op.inverse else op) filter entity := by
  have condition : (if rules.isReversed filter then (ofEntityEnd property side op).inverse
      else (ofEntityEnd property side op).normal).holds entity (some filter) =
      side.holds property (if rules.isReversed filter then op.inverse else op) filter entity := by
    split
    · exact side.holds_compare property op.inverse filter entity
    · exact side.holds_compare property op filter entity
  have operand : (ofEntityEnd property side op).nullOperand = side.bound.nullableIndex := rfl
  rw [Side.accepts_of_rejecting rejecting, condition, operand]
  cases isNull : (entity.get side.bound.index).isNull with
  | true =>
      have either : (if rules.isReversed filter then op.inverse else op).isOrdering = true := by
        split
        · exact op.isOrdering_inverse.trans ordering
        · exact ordering
      rw [RangeSide.holds_of_isNull isNull either, Bool.and_false]
  | false =>
      have tested :
          side.bound.nullableIndex.all (fun index => !(entity.get index).isNull) = true := by
        unfold Property.nullableIndex
        split <;> simp [isNull]
      rw [tested, Bool.true_and]

theorem Binding.accepts_entityRange (entity : Record) (property : Property) (min max : RangeSide)
    (kept : (⟨.entityRange property min max, rules⟩ : Binding).compile.isIgnored filter = false) :
    (⟨.entityRange property min max, rules⟩ : Binding).accepts filter entity =
      if rules.isReversed filter then
        min.holds property min.kind.lowerOp.inverse filter entity ||
          max.holds property max.kind.upperOp.inverse filter entity
      else
        min.holds property min.kind.lowerOp filter entity &&
          max.holds property max.kind.upperOp filter entity := by
  have pair : (⟨.entityRange property min max, rules⟩ : Binding).compile.sides =
      [.ofEntityEnd property min min.kind.lowerOp, .ofEntityEnd property max max.kind.upperOp] :=
    rfl
  have ofRules : (⟨.entityRange property min max, rules⟩ : Binding).compile.rules = rules := rfl
  have lowerActive : (Side.ofEntityEnd property min min.kind.lowerOp).isActive filter = true :=
    Side.isActive_of_unguarded rfl filter
  have upperActive : (Side.ofEntityEnd property max max.kind.upperOp).isActive filter = true :=
    Side.isActive_of_unguarded rfl filter
  have lower := Side.accepts_ofEntityEnd rejecting property entity min min.kind.isOrdering_lowerOp
  have upper := Side.accepts_ofEntityEnd rejecting property entity max max.kind.isOrdering_upperOp
  rw [accepts]
  cases reversal : rules.isReversed filter with
  | true =>
      rw [reversal, if_pos rfl] at lower upper
      rw [CompiledBinding.accepts_of_reversed_pair filter entity pair (ofRules ▸ reversal), ofRules,
        kept, lowerActive, upperActive, lower, upper]
      simp
  | false =>
      rw [reversal, if_neg Bool.false_ne_true] at lower upper
      rw [CompiledBinding.accepts_of_pair filter entity pair (ofRules ▸ reversal), ofRules,
        kept, lowerActive, upperActive, lower, upper]
      simp

end Rejecting

/-- An entity with a null end, under rules that reject null values. A range set by the entity
rejects it if the range is not reversed, or if both ends are null. Reversed, with one of the ends
set, it accepts the entity exactly if the inverse of the operator holds of the filter's value and
that end. -/
theorem null_ends_are_rejected_unless_reversed {entityShape filterShape : Shape}
    {property : Property} {min max : RangeSide} {rules : Rules} {filter entity : Record}
    (ofFilter : filter.shape.name = filterShape.name)
    (ofEntity : entity.shape.name = entityShape.name)
    (kept : (⟨.entityRange property min max, rules⟩ : Binding).compile.isIgnored filter = false)
    (rejecting : rules.nullDecision filter = some false)
    (nullEnd : (entity.get min.bound.index).isNull = true ∨
      (entity.get max.bound.index).isNull = true) :
    ∃ accepted,
      (CompiledFilter.compile entityShape filterShape
        [⟨.entityRange property min max, rules⟩]).accepts filter entity = .ok accepted ∧
      (accepted = true ↔ rules.isReversed filter = true ∧
        ((entity.get min.bound.index).isNull = false ∧
            min.holds property min.kind.lowerOp.inverse filter entity = true ∨
          (entity.get max.bound.index).isNull = false ∧
            max.holds property max.kind.upperOp.inverse filter entity = true)) := by
  have lowerOrdering : min.kind.lowerOp.inverse.isOrdering = true :=
    min.kind.lowerOp.isOrdering_inverse.trans min.kind.isOrdering_lowerOp
  have upperOrdering : max.kind.upperOp.inverse.isOrdering = true :=
    max.kind.upperOp.isOrdering_inverse.trans max.kind.isOrdering_upperOp
  refine ⟨_, CompiledFilter.accepts_single _ ofFilter ofEntity, ?_⟩
  rw [Binding.accepts_entityRange rejecting entity property min max kept]
  cases reversal : rules.isReversed filter with
  | true =>
      rw [if_pos rfl, Bool.or_eq_true]
      constructor
      · rintro (belowMin | aboveMax)
        · exact ⟨rfl, Or.inl ⟨RangeSide.isNull_eq_false_of_holds lowerOrdering belowMin, belowMin⟩⟩
        · exact ⟨rfl, Or.inr ⟨RangeSide.isNull_eq_false_of_holds upperOrdering aboveMax, aboveMax⟩⟩
      · rintro ⟨-, ⟨-, belowMin⟩ | ⟨-, aboveMax⟩⟩
        · exact Or.inl belowMin
        · exact Or.inr aboveMax
  | false =>
      have rejected : (min.holds property min.kind.lowerOp filter entity &&
          max.holds property max.kind.upperOp filter entity) = false := by
        rcases nullEnd with minNull | maxNull
        · rw [RangeSide.holds_of_isNull minNull min.kind.isOrdering_lowerOp, Bool.false_and]
        · rw [RangeSide.holds_of_isNull maxNull max.kind.isOrdering_upperOp, Bool.and_false]
      rw [if_neg Bool.false_ne_true, rejected]
      simp

/-- Stretches of time of which the ends need not be known. -/
def windowShape : Shape :=
  ⟨"Window", [⟨"From", .nullable (.numeric .i32)⟩, ⟨"To", .nullable (.numeric .i32)⟩], by decide⟩

def momentShape : Shape := ⟨"Moment", [⟨"At", .numeric .i32⟩], by decide⟩

/-- Until the first day, with no known start. -/
def untilFirstDay : Record :=
  ⟨windowShape, [.null, .number (.integer ⟨true, .w32⟩ ⟨1, by decide, by decide⟩)], rfl⟩

def fifthDay : Record :=
  ⟨momentShape, [.number (.integer ⟨true, .w32⟩ ⟨5, by decide, by decide⟩)], rfl⟩

def moment : Property := ⟨"At", 0, .numeric .i32⟩

def windowStart : RangeSide :=
  ⟨⟨"From", 0, .nullable (.numeric .i32)⟩, .inclusive, ⟨none, none, true, false⟩⟩

def windowEnd : RangeSide :=
  ⟨⟨"To", 1, .nullable (.numeric .i32)⟩, .inclusive, ⟨none, none, true, false⟩⟩

/-- The fifth day lies beyond the end of the window. Not reversed, the range rejects the window for
the start that is not known; reversed, it does not. -/
theorem null_ends_are_rejected_unless_reversed_window :
    (⟨.entityRange moment windowStart windowEnd, outsidePeriod⟩ : Binding).compile.isIgnored
        fifthDay = false ∧
      outsidePeriod.nullDecision fifthDay = some false ∧
      (untilFirstDay.get windowStart.bound.index).isNull = true ∧
      (CompiledFilter.compile windowShape momentShape
        [⟨.entityRange moment windowStart windowEnd, outsidePeriod⟩]).accepts fifthDay
          untilFirstDay = .ok true := by
  have kept : (⟨.entityRange moment windowStart windowEnd, outsidePeriod⟩ :
      Binding).compile.isIgnored fifthDay = false := rfl
  have rejecting : outsidePeriod.nullDecision fifthDay = some false := rfl
  have startNull : (untilFirstDay.get windowStart.bound.index).isNull = true := rfl
  obtain ⟨accepted, answer, accepts⟩ := null_ends_are_rejected_unless_reversed
    (rfl : fifthDay.shape.name = momentShape.name)
    (rfl : untilFirstDay.shape.name = windowShape.name) kept rejecting (Or.inl startNull)
  have beyond : accepted = true := accepts.mpr ⟨rfl, Or.inr ⟨rfl, rfl⟩⟩
  exact ⟨kept, rejecting, startNull, beyond ▸ answer⟩

/-- To reject null values is not independent of reversal: a range as it is declared accepts an
entity with a null end when it is reversed, and rejects it when it is not. -/
theorem null_start_is_accepted_when_reversed :
    (Declaration.entityRange "From" "At" "To" .inclusive .inclusive outsidePeriod).resolve
        windowShape momentShape {} =
        .ok ⟨.entityRange moment windowStart windowEnd, outsidePeriod⟩ ∧
      (⟨.entityRange moment windowStart windowEnd, outsidePeriod⟩ : Binding).compile.isIgnored
        fifthDay = false ∧
      outsidePeriod.nullDecision fifthDay = some false ∧
      (untilFirstDay.get windowStart.bound.index).isNull = true ∧
      (CompiledFilter.compile windowShape momentShape
        [⟨.entityRange moment windowStart windowEnd, outsidePeriod⟩]).accepts fifthDay
          untilFirstDay = .ok true ∧
      (CompiledFilter.compile windowShape momentShape
        [⟨.entityRange moment windowStart windowEnd, outsidePeriod.reversedBy none⟩]).accepts
          fifthDay untilFirstDay = .ok false :=
  ⟨rfl, rfl, rfl, rfl, rfl, rfl⟩

end RecordFilter
