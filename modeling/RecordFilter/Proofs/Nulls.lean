import RecordFilter.Proofs.Ranges

set_option autoImplicit false

/-!
Decisions about null entity values. Where the rules decide about null, the decision settles a null
value whatever the condition and its reversal would say, and it leaves every other value to them. As
the test for null stands around each side of a binding, both ends of a range decide alike on a null,
so it makes no difference how they are joined.
-/

namespace RecordFilter

namespace Constraint

/-- The property of the entity that the constraint is about. A range set by the entity has two of
them, and a raw condition may read any. -/
def entityProperty? : Constraint → Option Property
  | compare entity .. | contain entity .. | member entity .. | text entity ..
  | filterRange entity .. => some entity
  | entityRange .. | raw .. => none

end Constraint

namespace Rules

/-- The rules with another decision about null. -/
def decidingBy (rules : Rules) (inclusion : NullInclusion) : Rules :=
  { rules with includeNullIf := some inclusion }

variable {rules : Rules} {filter : Record} {admitted : Bool}

theorem usesDefaultIgnore_of_nullDecision (decided : rules.nullDecision filter = some admitted) :
    rules.usesDefaultIgnore = false := by
  obtain ⟨inclusion, configured, -⟩ := Option.bind_eq_some_iff.mp decided
  rw [usesDefaultIgnore, configured]
  exact Bool.and_false _

theorem usesDefaultIgnore_decidingBy (rules : Rules) (inclusion : NullInclusion) :
    (rules.decidingBy inclusion).usesDefaultIgnore = false :=
  Bool.and_false _

end Rules

theorem Property.ignoreIndex_eq_none (property : Property) {rules : Rules}
    (noDefault : rules.usesDefaultIgnore = false) : property.ignoreIndex rules = none := by
  rw [ignoreIndex, noDefault, Bool.and_false]
  rfl

namespace Constraint

variable {constraint : Constraint} {property : Property} {rules other : Rules}

theorem sides_of_no_default (noDefault : rules.usesDefaultIgnore = false)
    (noOther : other.usesDefaultIgnore = false) :
    constraint.sides rules = constraint.sides other := by
  cases constraint with
  | filterRange entity min max =>
      simp only [sides, Side.ofFilterEnd, Property.ignoreIndex_eq_none _ noDefault,
        Property.ignoreIndex_eq_none _ noOther]
  | _ => rfl

theorem defaultIgnore_of_no_default (noDefault : rules.usesDefaultIgnore = false) :
    constraint.defaultIgnore rules = none := by
  cases constraint with
  | filterRange | raw => rfl
  | _ => exact Property.ignoreIndex_eq_none _ noDefault

theorem nullOperand_of_mem_sides (isOn : constraint.entityProperty? = some property)
    (nullable : property.canBeNull = true) {side : Side} (member : side ∈ constraint.sides rules) :
    side.nullOperand = some property.index := by
  have found : property.nullableIndex = some property.index := by
    rw [Property.nullableIndex, if_pos nullable]
  cases constraint with
  | filterRange entity min max =>
      cases isOn
      simp only [sides, List.mem_cons, List.not_mem_nil, or_false] at member
      rcases member with rfl | rfl <;> exact found
  | entityRange => cases isOn
  | raw => cases isOn
  | _ =>
      cases isOn
      rw [List.mem_singleton.mp member]
      exact found

theorem guard_of_mem_sides (noDefault : rules.usesDefaultIgnore = false) {side : Side}
    (member : side ∈ constraint.sides rules) : side.guard = none := by
  cases constraint with
  | filterRange entity min max =>
      simp only [sides, List.mem_cons, List.not_mem_nil, or_false] at member
      rcases member with rfl | rfl <;> exact Property.ignoreIndex_eq_none _ noDefault
  | entityRange filter min max =>
      simp only [sides, List.mem_cons, List.not_mem_nil, or_false] at member
      rcases member with rfl | rfl <;> rfl
  | _ =>
      rw [List.mem_singleton.mp member]
      rfl

theorem sides_ne_nil (constraint : Constraint) (rules : Rules) : constraint.sides rules ≠ [] := by
  cases constraint <;> exact List.cons_ne_nil _ _

theorem applicable_of_entityProperty? (isOn : constraint.entityProperty? = some property) :
    constraint.applicable rules = rules := by
  cases constraint with
  | raw => nomatch isOn
  | _ => rfl

end Constraint

namespace Side

variable {side : Side} {rules : Rules} {filter : Record} {index : Nat} {admitted : Bool}

/-- The decision stands outside of the reversal: it settles a null value and leaves every other one
to the condition. -/
theorem accepts_of_decided (operand : side.nullOperand = some index)
    (decided : rules.nullDecision filter = some admitted) (inclusion : NullInclusion)
    (undecided : inclusion filter = none) (entity : Record) :
    side.accepts rules filter entity =
      if (entity.get index).isNull then admitted
      else side.accepts (rules.decidingBy inclusion) filter entity := by
  have other : (rules.decidingBy inclusion).nullDecision filter = none := undecided
  have reversal : (rules.decidingBy inclusion).isReversed filter = rules.isReversed filter := rfl
  unfold accepts condition
  rw [operand, decided, other, reversal]
  cases null : (entity.get index).isNull <;> cases admitted <;>
    simp [Expr.holds, Expr.eval, Value.isTrue, null]

end Side

namespace CompiledBinding

variable {binding : CompiledBinding} {filter entity : Record}

/-- A binding of which all sides count joins what they say, by alternatives if it is reversed. -/
theorem accepts_of_active (kept : binding.isIgnored filter = false) (sided : binding.sides ≠ [])
    (active : ∀ side ∈ binding.sides, side.isActive filter = true) :
    binding.accepts filter entity =
      if binding.rules.isReversed filter then
        (binding.sides.map (·.accepts binding.rules filter entity)).any id
      else (binding.sides.map (·.accepts binding.rules filter entity)).all id := by
  have all : binding.sides.filter (·.isActive filter) = binding.sides :=
    List.filter_eq_self.mpr active
  have notEmpty : binding.sides.isEmpty = false := List.isEmpty_eq_false_iff.mpr sided
  rw [accepts_eq, kept, all, notEmpty, Bool.false_or, Bool.false_or, List.any_map, List.all_map]
  rfl

/-- Sides that all say the same are joined to that, whether all of them have to accept or one. -/
theorem accepts_of_constant (kept : binding.isIgnored filter = false) (sided : binding.sides ≠ [])
    (active : ∀ side ∈ binding.sides, side.isActive filter = true) {answer : Bool}
    (agree : ∀ side ∈ binding.sides, side.accepts binding.rules filter entity = answer) :
    binding.accepts filter entity = answer := by
  have same : binding.sides.map (·.accepts binding.rules filter entity) =
      List.replicate binding.sides.length answer := List.map_eq_replicate_iff.mpr agree
  have positive : binding.sides.length ≠ 0 := fun empty => sided (List.length_eq_zero_iff.mp empty)
  rw [accepts_of_active kept sided active, same, List.any_replicate, List.all_replicate,
    if_neg positive, if_neg positive, id, ite_self]

end CompiledBinding

namespace Binding

variable {constraint : Constraint} {property : Property} {rules : Rules} {filter : Record}
  {admitted : Bool}

theorem isIgnored_decidingBy (decided : rules.nullDecision filter = some admitted)
    (isOn : constraint.entityProperty? = some property) (inclusion : NullInclusion) :
    (⟨constraint, rules.decidingBy inclusion⟩ : Binding).compile.isIgnored filter =
      (⟨constraint, rules⟩ : Binding).compile.isIgnored filter := by
  have noDefault := Rules.usesDefaultIgnore_of_nullDecision decided
  rw [isIgnored_compile, isIgnored_compile, Constraint.applicable_of_entityProperty? isOn,
    Constraint.applicable_of_entityProperty? isOn,
    Constraint.defaultIgnore_of_no_default noDefault,
    Constraint.defaultIgnore_of_no_default (rules.usesDefaultIgnore_decidingBy inclusion)]
  rfl

theorem accepts_of_decided (isOn : constraint.entityProperty? = some property)
    (nullable : property.canBeNull = true)
    (kept : (⟨constraint, rules⟩ : Binding).compile.isIgnored filter = false)
    (decided : rules.nullDecision filter = some admitted) (inclusion : NullInclusion)
    (undecided : inclusion filter = none) (entity : Record) :
    (⟨constraint, rules⟩ : Binding).accepts filter entity =
      if (entity.get property.index).isNull then admitted
      else (⟨constraint, rules.decidingBy inclusion⟩ : Binding).accepts filter entity := by
  have noDefault := Rules.usesDefaultIgnore_of_nullDecision decided
  have noOther := rules.usesDefaultIgnore_decidingBy inclusion
  have sides : (⟨constraint, rules⟩ : Binding).compile.sides = constraint.sides rules := rfl
  have otherSides : (⟨constraint, rules.decidingBy inclusion⟩ : Binding).compile.sides =
      constraint.sides rules := Constraint.sides_of_no_default noOther noDefault
  have ofRules : (⟨constraint, rules⟩ : Binding).compile.rules = rules :=
    Constraint.applicable_of_entityProperty? isOn
  have ofOther : (⟨constraint, rules.decidingBy inclusion⟩ : Binding).compile.rules =
      rules.decidingBy inclusion := Constraint.applicable_of_entityProperty? isOn
  have reversal : (rules.decidingBy inclusion).isReversed filter = rules.isReversed filter := rfl
  have active : ∀ side ∈ constraint.sides rules, side.isActive filter = true :=
    fun side member => side.isActive_of_unguarded
      (Constraint.guard_of_mem_sides noDefault member) filter
  have decides (side : Side) (member : side ∈ constraint.sides rules) :=
    Side.accepts_of_decided (Constraint.nullOperand_of_mem_sides isOn nullable member) decided
      inclusion undecided entity
  have sided := constraint.sides_ne_nil rules
  cases null : (entity.get property.index).isNull with
  | true =>
      rw [if_pos rfl]
      apply CompiledBinding.accepts_of_constant kept sided active
      intro side member
      rw [ofRules, decides side member, null, if_pos rfl]
  | false =>
      have keptOther := (isIgnored_decidingBy decided isOn inclusion).trans kept
      rw [if_neg Bool.false_ne_true, accepts, accepts,
        CompiledBinding.accepts_of_active kept sided active,
        CompiledBinding.accepts_of_active keptOther (otherSides ▸ sided) (otherSides ▸ active),
        sides, otherSides, ofRules, ofOther, reversal]
      have same : ∀ side ∈ constraint.sides rules, side.accepts rules filter entity =
          side.accepts (rules.decidingBy inclusion) filter entity := by
        intro side member
        rw [decides side member, null, if_neg Bool.false_ne_true]
      rw [List.map_congr_left same]

end Binding

/-- A decision about null settles the null entity values and no others. For a binding on a property
of the entity that can be null, and a filter record for which the binding is not ignored, an entity
record without a value is accepted or rejected as the decision says, whatever the operator, the
values of the filter and the reversal; one with a value is treated as by the same binding under
rules that leave nulls alone. -/
theorem null_decision_settles_null_values {entityShape filterShape : Shape}
    {constraint : Constraint} {property : Property} {rules : Rules} {filter : Record}
    {admitted : Bool} (isOn : constraint.entityProperty? = some property)
    (nullable : property.canBeNull = true) (ofFilter : filter.shape.name = filterShape.name)
    (kept : (⟨constraint, rules⟩ : Binding).compile.isIgnored filter = false)
    (decided : rules.nullDecision filter = some admitted) {entity : Record}
    (ofEntity : entity.shape.name = entityShape.name) :
    ((entity.get property.index).isNull = true →
      (CompiledFilter.compile entityShape filterShape [⟨constraint, rules⟩]).accepts filter entity =
        .ok admitted) ∧
    ((entity.get property.index).isNull = false → ∃ accepted,
      (CompiledFilter.compile entityShape filterShape [⟨constraint, rules⟩]).accepts filter entity =
        .ok accepted ∧
      ∀ inclusion : NullInclusion, inclusion filter = none →
        (CompiledFilter.compile entityShape filterShape
          [⟨constraint, rules.decidingBy inclusion⟩]).accepts filter entity = .ok accepted) := by
  simp only [CompiledFilter.accepts_single _ ofFilter ofEntity, Except.ok.injEq]
  constructor
  · intro null
    rw [Binding.accepts_of_decided isOn nullable kept decided (fun _ => none) rfl, null, if_pos rfl]
  · intro present
    refine ⟨_, rfl, fun inclusion undecided => ?_⟩
    rw [Binding.accepts_of_decided isOn nullable kept decided inclusion undecided, present,
      if_neg Bool.false_ne_true]

/-- A book of which the year is not known. -/
def beowulf : Record := ⟨bookShape, [.string "Beowulf", .null], rfl⟩

/-- Books from outside of a period, without those that have no year. -/
def outsidePeriod : Rules where
  reverseIf := some fun _ => true
  includeNullIf := some fun _ => some false

/-- One end of the period is not set; reversed, the range joins its ends by alternatives. -/
theorem null_decision_settles_null_values_beowulf :
    (Constraint.filterRange bookYear periodStart periodEnd).entityProperty? = some bookYear ∧
      bookYear.canBeNull = true ∧
      (⟨.filterRange bookYear periodStart periodEnd, outsidePeriod⟩ : Binding).compile.isIgnored
        sinceTheSeventies = false ∧
      outsidePeriod.nullDecision sinceTheSeventies = some false ∧
      (CompiledFilter.compile bookShape periodShape
          [⟨.filterRange bookYear periodStart periodEnd, outsidePeriod⟩]).accepts sinceTheSeventies
        beowulf = .ok false ∧
      ∃ accepted,
        (CompiledFilter.compile bookShape periodShape
            [⟨.filterRange bookYear periodStart periodEnd, outsidePeriod⟩]).accepts
          sinceTheSeventies dune = .ok accepted ∧
        (CompiledFilter.compile bookShape periodShape
            [⟨.filterRange bookYear periodStart periodEnd,
              outsidePeriod.decidingBy fun _ => none⟩]).accepts
          sinceTheSeventies dune = .ok accepted := by
  have settled (entity : Record) (ofEntity : entity.shape.name = bookShape.name) :=
    null_decision_settles_null_values
      (rfl : (Constraint.filterRange bookYear periodStart periodEnd).entityProperty? =
        some bookYear) rfl
      (rfl : sinceTheSeventies.shape.name = periodShape.name)
      (rfl : (⟨.filterRange bookYear periodStart periodEnd, outsidePeriod⟩ :
        Binding).compile.isIgnored sinceTheSeventies = false)
      (rfl : outsidePeriod.nullDecision sinceTheSeventies = some false) ofEntity
  obtain ⟨accepted, decided, other⟩ := (settled dune rfl).2 rfl
  exact ⟨rfl, rfl, rfl, rfl, (settled beowulf rfl).1 rfl, accepted, decided, other _ rfl⟩

end RecordFilter
