import RecordFilter.Proofs.Ranges

set_option autoImplicit false

/-!
Reversal is negation. The condition of a side and the reverse of it are opposites, save for an
ordering of values that are not ordered: neither the operator holds of them nor its inverse. As a
reversed binding asks for one of the reverses, it rejects what it accepts when it is not reversed.
-/

namespace RecordFilter

theorem CompareOp.holds_inverse (op : CompareOp) (order : Ordering) :
    op.inverse.holds order = !op.holds order := by
  cases op <;> cases order <;> rfl

/-- The inverse of an operator is its negation, on values that are ordered if it asks for that. -/
theorem Value.satisfies_inverse {op : CompareOp} {a b : Value}
    (ordered : op.isOrdering = true → (a.order? b).isSome = true) :
    satisfies op.inverse a b = !satisfies op a b := by
  cases ordering : op.isOrdering with
  | true =>
      obtain ⟨order, found⟩ := Option.isSome_iff_exists.mp (ordered ordering)
      rw [satisfies_of_isOrdering (op.isOrdering_inverse.trans ordering),
        satisfies_of_isOrdering ordering, found, Option.any_some, Option.any_some,
        op.holds_inverse]
  | false =>
      cases op with
      | equal => rfl
      | notEqual => exact (Bool.not_not _).symm
      | _ => nomatch ordering

/-- The value of a property as a comparison takes it, null if its conversion fails. -/
def Record.converted (record : Record) (property : Property) (target : Option NumericType) :
    Value :=
  ((record.get property.index).widenIf? target).getD .null

theorem Expr.eval_convertIf_field (entity : Record) (filter : Option Record) (property : Property)
    (target : Option NumericType) :
    ((field property.index).convertIf target).eval entity filter =
      entity.converted property target :=
  eval_convertIf _ _ _ _

theorem Expr.eval_convertIf_filterField (entity filter : Record) (property : Property)
    (target : Option NumericType) :
    ((filterField property.index).convertIf target).eval entity (some filter) =
      filter.converted property target :=
  eval_convertIf _ _ _ _

namespace Side

variable {side : Side} {rules : Rules} {filter entity : Record}

theorem accepts_of_reversed (side : Side) (reversed : rules.isReversed filter = true)
    (undecided : rules.nullDecision filter = none) (entity : Record) :
    side.accepts rules filter entity = side.inverse.holds entity (some filter) := by
  rw [← Expr.holds_bind, accepts, reversed, undecided]
  rfl

/-- Whether the condition and the reverse of it are opposites for two records. -/
def IsOpposed (side : Side) (filter entity : Record) : Prop :=
  side.inverse.holds entity (some filter) = !side.normal.holds entity (some filter)

theorem isOpposed_demanding (condition : Expr) (negated : Bool) (nullOperand : Option Nat) :
    (demanding condition negated nullOperand).IsOpposed filter entity := by
  cases negated with
  | false => rfl
  | true => exact (Bool.not_not _).symm

theorem isOpposed_comparing {op : CompareOp} {left right : Expr} (guard nullOperand : Option Nat)
    (ordered : op.isOrdering = true →
      ((left.eval entity (some filter)).order? (right.eval entity (some filter))).isSome = true) :
    (comparing op left right guard nullOperand).IsOpposed filter entity :=
  Value.satisfies_inverse ordered

end Side

namespace CompiledBinding

variable {straight reversed : CompiledBinding} {filter entity : Record}

/-- Of two bindings with the same sides, the reversed one accepts what the other one rejects, if all
sides that count have opposites. -/
theorem accepts_of_isOpposed (sameSides : reversed.sides = straight.sides)
    (isReversed : reversed.rules.isReversed filter = true)
    (isStraight : straight.rules.isReversed filter = false)
    (undecidedReversed : reversed.rules.nullDecision filter = none)
    (undecided : straight.rules.nullDecision filter = none)
    (keptReversed : reversed.isIgnored filter = false) (kept : straight.isIgnored filter = false)
    (counts : ∃ side ∈ straight.sides, side.isActive filter = true)
    (opposed : ∀ side ∈ straight.sides, side.isActive filter = true →
      side.IsOpposed filter entity) :
    reversed.accepts filter entity = !straight.accepts filter entity := by
  obtain ⟨side, member, active⟩ := counts
  have some : (straight.sides.filter (·.isActive filter)).isEmpty = false :=
    List.isEmpty_eq_false_iff_exists_mem.mpr ⟨side, List.mem_filter.mpr ⟨member, active⟩⟩
  rw [accepts_eq, accepts_eq, kept, keptReversed, isStraight, isReversed, sameSides, some,
    if_pos rfl, if_neg Bool.false_ne_true, Bool.false_or, Bool.false_or, Bool.false_or,
    List.not_all_eq_any_not]
  -- A conjunction is negated by negating its parts and joining them by alternatives.
  rw [Bool.eq_iff_iff, List.any_eq_true, List.any_eq_true]
  refine exists_congr fun side => and_congr_right fun counted => ?_
  obtain ⟨member, active⟩ := List.mem_filter.mp counted
  rw [side.accepts_of_reversed isReversed undecidedReversed,
    side.accepts_of_plain isStraight undecided, opposed side member active]

end CompiledBinding

/-- The rules with another reversal. -/
def Rules.reversedBy (rules : Rules) (condition : Option FilterCondition) : Rules :=
  { rules with reverseIf := condition }

namespace Constraint

/-- Whether the operands are ordered wherever an ordering is asked for. Of a range set by the filter
only the ends count that are not dropped for being null. -/
def IsOrdered (rules : Rules) (filter entity : Record) : Constraint → Prop
  | compare property other op plan => op.isOrdering = true →
    ((entity.converted property plan.entity).order?
      (filter.converted other plan.filter)).isSome = true
  | filterRange property min max => ∀ side ∈ [min, max],
    (rules.usesDefaultIgnore && side.bound.isNullIn filter) = false →
      ((entity.converted property side.plan.entity).order?
        (filter.converted side.bound side.plan.filter)).isSome = true
  | entityRange property min max => ∀ side ∈ [min, max],
    ((filter.converted property side.plan.filter).order?
      (entity.converted side.bound side.plan.entity)).isSome = true
  | contain .. | member .. | text .. | raw .. => True

variable {constraint : Constraint} {rules : Rules} {filter entity : Record}

theorem isOpposed_of_isOrdered (ordered : constraint.IsOrdered rules filter entity) {side : Side}
    (member : side ∈ constraint.sides rules) (active : side.isActive filter = true) :
    side.IsOpposed filter entity := by
  cases constraint with
  | compare property other op plan =>
      rw [List.mem_singleton.mp member]
      apply Side.isOpposed_comparing
      rw [Expr.eval_convertIf_field, Expr.eval_convertIf_filterField]
      exact ordered
  | filterRange property min max =>
      have ofEnd {bound : RangeSide} (op : CompareOp) (listed : bound ∈ [min, max])
          (counts : (Side.ofFilterEnd property rules bound op).isActive filter = true) :
          (Side.ofFilterEnd property rules bound op).IsOpposed filter entity := by
        rw [Side.isActive_ofFilterEnd, Bool.not_eq_true'] at counts
        apply Side.isOpposed_comparing
        rw [Expr.eval_convertIf_field, Expr.eval_convertIf_filterField]
        exact fun _ => ordered bound listed counts
      simp only [sides, List.mem_cons, List.not_mem_nil, or_false] at member
      rcases member with rfl | rfl
      · exact ofEnd _ (by simp) active
      · exact ofEnd _ (by simp) active
  | entityRange property min max =>
      have ofEnd {bound : RangeSide} (op : CompareOp) (listed : bound ∈ [min, max]) :
          (Side.ofEntityEnd property bound op).IsOpposed filter entity := by
        apply Side.isOpposed_comparing
        rw [Expr.eval_convertIf_field, Expr.eval_convertIf_filterField]
        exact fun _ => ordered bound listed
      simp only [sides, List.mem_cons, List.not_mem_nil, or_false] at member
      rcases member with rfl | rfl
      · exact ofEnd _ (by simp)
      · exact ofEnd _ (by simp)
  | _ =>
      rw [List.mem_singleton.mp member]
      exact Side.isOpposed_demanding _ _ _

theorem sides_reversedBy (constraint : Constraint) (rules : Rules)
    (condition : Option FilterCondition) :
    constraint.sides (rules.reversedBy condition) = constraint.sides rules := by
  cases constraint <;> rfl

end Constraint

namespace Binding

variable {constraint : Constraint} {rules : Rules} {filter : Record}

/-- A binding that is not dropped is not ignored, and one of its sides counts. -/
theorem counts_of_not_isDropped {binding : Binding} (kept : binding.isDropped filter = false) :
    binding.compile.isIgnored filter = false ∧
      ∃ side ∈ binding.compile.sides, side.isActive filter = true := by
  have demands : ¬ binding.compile.fragment? filter = none := by
    rw [fragment?_eq_none_iff, kept]
    exact Bool.false_ne_true
  rw [CompiledBinding.fragment?_eq_none_iff, not_or] at demands
  refine ⟨Bool.not_eq_true _ ▸ demands.1, ?_⟩
  simpa using demands.2

theorem isIgnored_reversedBy (condition : Option FilterCondition) :
    (⟨constraint, rules.reversedBy condition⟩ : Binding).compile.isIgnored filter =
      (⟨constraint, rules⟩ : Binding).compile.isIgnored filter := by
  cases constraint <;> rfl

theorem rules_compile (notRaw : ∀ label expr, constraint ≠ .raw label expr) :
    (⟨constraint, rules⟩ : Binding).compile.rules = rules := by
  cases constraint with
  | raw label expr => exact absurd rfl (notRaw label expr)
  | _ => rfl

end Binding

/-- Reversal is negation. For a filter record for which nothing is decided about null and the
binding is not dropped, a binding of any kind but the raw one accepts an entity record when it is
reversed exactly if it rejects the record when it is not. Equality, containment, membership and
string tests do so whatever the values are; the orderings of a comparison or a range do so where the
operands, after their conversions, are ordered. -/
theorem reversal_is_negation {entityShape filterShape : Shape} {constraint : Constraint}
    {rules : Rules} {filter entity : Record}
    (notRaw : ∀ label expr, constraint ≠ .raw label expr)
    (undecided : rules.nullDecision filter = none)
    (kept : (⟨constraint, rules⟩ : Binding).isDropped filter = false)
    (ordered : constraint.IsOrdered rules filter entity)
    (ofFilter : filter.shape.name = filterShape.name)
    (ofEntity : entity.shape.name = entityShape.name)
    {reversing keeping : Option FilterCondition} (reverses : reversing.any (· filter) = true)
    (keeps : keeping.any (· filter) = false) :
    ∃ accepted,
      (CompiledFilter.compile entityShape filterShape
        [⟨constraint, rules.reversedBy keeping⟩]).accepts filter entity = .ok accepted ∧
      (CompiledFilter.compile entityShape filterShape
        [⟨constraint, rules.reversedBy reversing⟩]).accepts filter entity = .ok (!accepted) := by
  obtain ⟨notIgnored, counts⟩ := Binding.counts_of_not_isDropped kept
  have ofRules (condition : Option FilterCondition) :
      (⟨constraint, rules.reversedBy condition⟩ : Binding).compile.rules =
        rules.reversedBy condition := Binding.rules_compile notRaw
  have sides (condition : Option FilterCondition) :
      (⟨constraint, rules.reversedBy condition⟩ : Binding).compile.sides =
        constraint.sides rules := constraint.sides_reversedBy rules condition
  have opposite : (⟨constraint, rules.reversedBy reversing⟩ : Binding).accepts filter entity =
      !(⟨constraint, rules.reversedBy keeping⟩ : Binding).accepts filter entity := by
    apply CompiledBinding.accepts_of_isOpposed
    · exact (sides reversing).trans (sides keeping).symm
    · rw [ofRules]
      exact reverses
    · rw [ofRules]
      exact keeps
    · rw [ofRules]
      exact undecided
    · rw [ofRules]
      exact undecided
    · exact (Binding.isIgnored_reversedBy reversing).trans notIgnored
    · exact (Binding.isIgnored_reversedBy keeping).trans notIgnored
    · rw [sides]
      exact counts
    · rw [sides]
      exact fun side member => Constraint.isOpposed_of_isOrdered ordered member
  refine ⟨_, CompiledFilter.accepts_single _ ofFilter ofEntity, ?_⟩
  rw [CompiledFilter.accepts_single _ ofFilter ofEntity]
  exact congrArg Except.ok opposite

/-- Dune lies before the period, of which the end is not set. -/
theorem reversal_is_negation_dune :
    (∀ label expr, Constraint.filterRange bookYear periodStart periodEnd ≠ .raw label expr) ∧
      Rules.nullDecision {} sinceTheSeventies = none ∧
      (⟨.filterRange bookYear periodStart periodEnd, {}⟩ : Binding).isDropped sinceTheSeventies =
        false ∧
      (Constraint.filterRange bookYear periodStart periodEnd).IsOrdered {} sinceTheSeventies dune ∧
      (CompiledFilter.compile bookShape periodShape
          [⟨.filterRange bookYear periodStart periodEnd, {}⟩]).accepts sinceTheSeventies dune =
        .ok false ∧
      (CompiledFilter.compile bookShape periodShape
          [⟨.filterRange bookYear periodStart periodEnd,
            { reverseIf := some fun _ => true }⟩]).accepts sinceTheSeventies dune = .ok true := by
  have notRaw : ∀ label expr, Constraint.filterRange bookYear periodStart periodEnd ≠
      .raw label expr := fun _ _ raw => nomatch raw
  have ordered : (Constraint.filterRange bookYear periodStart periodEnd).IsOrdered {}
      sinceTheSeventies dune :=
    List.forall_mem_cons.mpr ⟨fun _ => rfl, List.forall_mem_singleton.mpr fun set => nomatch set⟩
  have reverses : (some fun _ => true : Option FilterCondition).any (· sinceTheSeventies) = true :=
    rfl
  have keeps : (none : Option FilterCondition).any (· sinceTheSeventies) = false := rfl
  obtain ⟨accepted, straight, reversed⟩ := reversal_is_negation notRaw rfl rfl ordered
    (rfl : sinceTheSeventies.shape.name = periodShape.name)
    (rfl : dune.shape.name = bookShape.name) reverses keeps
  obtain rfl : false = accepted := Except.ok.inj straight
  exact ⟨notRaw, rfl, rfl, ordered, straight, reversed⟩

end RecordFilter
