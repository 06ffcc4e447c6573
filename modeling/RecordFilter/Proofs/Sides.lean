import RecordFilter.Proofs.Conjunction

set_option autoImplicit false

/-!
A binding decides by its sides. One side alone decides for the binding; of two sides both have to
accept or, when the binding is reversed, one of those that count. A binding of which no side counts
accepts everything.
-/

namespace RecordFilter

namespace Side

/-- Whether an entity record meets the condition of the side under the rules of its binding. -/
def accepts (side : Side) (rules : Rules) (filter entity : Record) : Bool :=
  (side.condition filter (rules.isReversed filter) (rules.nullDecision filter)).holds entity none

theorem accepts_of_plain (side : Side) {rules : Rules} {filter : Record}
    (straight : rules.isReversed filter = false) (undecided : rules.nullDecision filter = none)
    (entity : Record) :
    side.accepts rules filter entity = side.normal.holds entity (some filter) := by
  rw [← Expr.holds_bind, accepts, straight, undecided]
  rfl

theorem accepts_congr {first second : Side} {filter entity : Record}
    (operand : first.nullOperand = second.nullOperand)
    (normal : first.normal.holds entity (some filter) = second.normal.holds entity (some filter))
    (inverse : first.inverse.holds entity (some filter) =
      second.inverse.holds entity (some filter)) (rules : Rules) :
    first.accepts rules filter entity = second.accepts rules filter entity := by
  have base : ((if rules.isReversed filter then first.inverse else first.normal).bind filter).holds
      entity none =
      ((if rules.isReversed filter then second.inverse else second.normal).bind filter).holds
        entity none := by
    cases rules.isReversed filter <;> simp only [Bool.false_eq_true, ↓reduceIte, Expr.holds_bind,
      normal, inverse]
  unfold accepts condition
  rw [operand]
  cases rules.nullDecision filter with
  | none => exact base
  | some admitted =>
      cases second.nullOperand with
      | none => cases admitted <;> exact base
      | some index => cases admitted <;> simp only [Expr.holds_or, Expr.holds_and, base]

end Side

namespace CompiledBinding

variable {binding : CompiledBinding} (filter entity : Record)

theorem fragment?_of_single {side : Side} (single : binding.sides = [side])
    (unguarded : side.guard = none) :
    binding.fragment? filter =
      if binding.isIgnored filter then none
      else some (side.condition filter (binding.rules.isReversed filter)
        (binding.rules.nullDecision filter)) := by
  have active : binding.sides.filter (·.isActive filter) = [side] := by
    rw [single]
    exact List.filter_eq_self.mpr (by simp [side.isActive_of_unguarded unguarded])
  rw [fragment?, active]
  cases binding.rules.isReversed filter <;> rfl

theorem accepts_of_single {side : Side} (single : binding.sides = [side])
    (unguarded : side.guard = none) :
    binding.accepts filter entity =
      (binding.isIgnored filter || side.accepts binding.rules filter entity) := by
  rw [accepts, fragment?_of_single filter single unguarded]
  cases binding.isIgnored filter <;> rfl

theorem accepts_of_plain {side : Side} (single : binding.sides = [side])
    (unguarded : side.guard = none) (kept : binding.isIgnored filter = false)
    (straight : binding.rules.isReversed filter = false)
    (undecided : binding.rules.nullDecision filter = none) :
    binding.accepts filter entity = side.normal.holds entity (some filter) := by
  rw [accepts_of_single filter entity single unguarded, kept, Bool.false_or,
    side.accepts_of_plain straight undecided]

/-- The sides that count have to accept, all of them or, in a reversed binding, one. -/
theorem accepts_eq (binding : CompiledBinding) :
    binding.accepts filter entity =
      (binding.isIgnored filter ||
        if binding.rules.isReversed filter then
          (binding.sides.filter (·.isActive filter)).isEmpty ||
            (binding.sides.filter (·.isActive filter)).any
              (·.accepts binding.rules filter entity)
        else (binding.sides.filter (·.isActive filter)).all
          (·.accepts binding.rules filter entity)) := by
  unfold accepts fragment? Side.accepts
  cases binding.isIgnored filter with
  | true => rfl
  | false =>
      cases binding.sides.filter (·.isActive filter) with
      | nil => cases binding.rules.isReversed filter <;> rfl
      | cons first rest =>
          cases binding.rules.isReversed filter <;>
            simp [Expr.holds_conjunction, Expr.holds_disjunction, Function.comp_def]

theorem accepts_of_pair {lower upper : Side} (pair : binding.sides = [lower, upper])
    (straight : binding.rules.isReversed filter = false) :
    binding.accepts filter entity =
      (binding.isIgnored filter ||
        (!lower.isActive filter || lower.accepts binding.rules filter entity) &&
          (!upper.isActive filter || upper.accepts binding.rules filter entity)) := by
  rw [accepts_eq, pair, straight]
  cases lowerActive : lower.isActive filter <;> cases upperActive : upper.isActive filter <;>
    simp [lowerActive, upperActive]

/-- With two sides, a reversed binding asks for one of those that count. -/
theorem accepts_of_reversed_pair {lower upper : Side} (pair : binding.sides = [lower, upper])
    (reversed : binding.rules.isReversed filter = true) :
    binding.accepts filter entity =
      (binding.isIgnored filter ||
        ((lower.isActive filter && lower.accepts binding.rules filter entity ||
          upper.isActive filter && upper.accepts binding.rules filter entity) ||
          (!lower.isActive filter && !upper.isActive filter))) := by
  rw [accepts_eq, pair, reversed]
  cases lowerActive : lower.isActive filter <;> cases upperActive : upper.isActive filter <;>
    simp [lowerActive, upperActive]

end CompiledBinding

theorem CompiledFilter.accepts_single {entityShape filterShape : Shape} (binding : Binding)
    {filter entity : Record} (ofFilter : filter.shape.name = filterShape.name)
    (ofEntity : entity.shape.name = entityShape.name) :
    (compile entityShape filterShape [binding]).accepts filter entity =
      .ok (binding.accepts filter entity) := by
  rw [accepts_compile [binding] ofFilter ofEntity, List.all_cons, List.all_nil, Bool.and_true]

end RecordFilter
