import RecordFilter.Proofs.Sides

set_option autoImplicit false

/-!
Reversal is the inverse operator. A binding keeps its condition and the reverse of it side by side,
so replacing the operator by its inverse exchanges the two; reversing in the opposite cases then
picks for every filter record the tree it picked before.
-/

namespace RecordFilter

namespace StringOp

@[simp] theorem isMembership_inverse (op : StringOp) :
    op.inverse.isMembership = op.isMembership := by
  cases op <;> rfl

@[simp] theorem test_inverse (op : StringOp) : op.inverse.test = op.test := by
  cases op <;> rfl

end StringOp

namespace Rules

/-- The rules with the reversal in the opposite cases, which are all cases when no rule reverses. -/
def oppositelyReversed (rules : Rules) : Rules :=
  { rules with reverseIf := some fun filter => !rules.isReversed filter }

variable (rules : Rules) (filter : Record)

@[simp] theorem isReversed_oppositelyReversed :
    rules.oppositelyReversed.isReversed filter = !rules.isReversed filter := rfl

@[simp] theorem nullDecision_oppositelyReversed :
    rules.oppositelyReversed.nullDecision filter = rules.nullDecision filter := rfl

end Rules

/-- The binding with the inverse operator, reversed in the opposite cases. Ranges and raw conditions
have no operator of their own and stay as they are. -/
def Binding.inverted (binding : Binding) : Binding :=
  match binding.constraint with
  | .compare entity filter op plan =>
    ⟨.compare entity filter op.inverse plan, binding.rules.oppositelyReversed⟩
  | .contain entity filter op convert comparison =>
    ⟨.contain entity filter op.inverse convert comparison, binding.rules.oppositelyReversed⟩
  | .member entity filter op convert comparison =>
    ⟨.member entity filter op.inverse convert comparison, binding.rules.oppositelyReversed⟩
  | .text entity filter op comparison =>
    ⟨.text entity filter op.inverse comparison, binding.rules.oppositelyReversed⟩
  | _ => binding

namespace Side

/-- The side with its condition and the reverse of it exchanged. -/
def swapped (side : Side) : Side := { side with normal := side.inverse, inverse := side.normal }

theorem comparing_inverse (op : CompareOp) (left right : Expr) (guard nullOperand : Option Nat) :
    comparing op.inverse left right guard nullOperand =
      (comparing op left right guard nullOperand).swapped := by
  simp only [comparing, swapped, CompareOp.inverse_inverse]

theorem demanding_not (condition : Expr) (negated : Bool) (nullOperand : Option Nat) :
    demanding condition (!negated) nullOperand =
      (demanding condition negated nullOperand).swapped := by
  simp only [demanding, swapped, Bool.not_not]

/-- The opposite reversal undoes the exchange; a decision about null stays outside of both. -/
theorem condition_swapped (side : Side) (filter : Record) (reversed : Bool)
    (nulls : Option Bool) :
    side.swapped.condition filter (!reversed) nulls = side.condition filter reversed nulls := by
  cases reversed <;> rfl

end Side

/-- Of two compiled bindings with one side each, the second demands what the first does when it has
the exchanged side and is reversed in the opposite cases. -/
theorem CompiledBinding.fragment?_of_swapped {binding opposite : CompiledBinding} {side : Side}
    {filter : Record} (single : binding.sides = [side])
    (exchanged : opposite.sides = [side.swapped]) (unguarded : side.guard = none)
    (ignored : opposite.isIgnored filter = binding.isIgnored filter)
    (rules : opposite.rules = binding.rules.oppositelyReversed) :
    opposite.fragment? filter = binding.fragment? filter := by
  rw [fragment?_of_single filter single unguarded, fragment?_of_single filter exchanged unguarded,
    ignored, rules, Rules.isReversed_oppositelyReversed, Rules.nullDecision_oppositelyReversed,
    Side.condition_swapped]

namespace Binding

variable (binding : Binding) (filter : Record)

theorem fragment?_inverted :
    binding.inverted.compile.fragment? filter = binding.compile.fragment? filter := by
  obtain ⟨constraint, rules⟩ := binding
  cases constraint with
  | compare entity property op plan =>
      refine CompiledBinding.fragment?_of_swapped rfl ?_ rfl rfl rfl
      simp only [compile, inverted, Constraint.sides, Side.comparing_inverse]
  | contain entity property op convert comparison =>
      refine CompiledBinding.fragment?_of_swapped rfl ?_ rfl rfl rfl
      simp only [compile, inverted, Constraint.sides, ContainOp.isNegated_inverse,
        Side.demanding_not]
  | member entity property op convert comparison =>
      refine CompiledBinding.fragment?_of_swapped rfl ?_ rfl rfl rfl
      simp only [compile, inverted, Constraint.sides, MembershipOp.isNegated_inverse,
        Side.demanding_not]
  | text entity property op comparison =>
      refine CompiledBinding.fragment?_of_swapped rfl ?_ rfl rfl rfl
      simp only [compile, inverted, Constraint.sides, StringOp.isNegated_inverse,
        StringOp.isMembership_inverse, StringOp.test_inverse, Side.demanding_not]
  | _ => rfl

theorem constraint_inverted_inverted :
    binding.inverted.inverted.constraint = binding.constraint := by
  obtain ⟨constraint, rules⟩ := binding
  cases constraint <;> simp [inverted]

end Binding

/-- The tree of a filter depends on its bindings only by what they demand. -/
theorem CompiledFilter.expr_congr {entityShape filterShape : Shape} {binding other : Binding}
    {filter : Record}
    (same : other.compile.fragment? filter = binding.compile.fragment? filter) :
    (compile entityShape filterShape [other]).expr filter =
      (compile entityShape filterShape [binding]).expr filter := by
  simp only [expr, compile, List.map_cons, List.map_nil, List.filterMap_cons, same]

/-- Reversal is the inverse operator: whether a binding is compiled as it is, or with the inverse of
its operator and reversed in the opposite cases, every filter record gets the same tree, also where
the binding is ignored. Inverted twice, a binding has its constraint back and gives the first trees
again. -/
theorem reversal_is_inverse_operator (entityShape filterShape : Shape) (binding : Binding)
    (filter : Record) :
    (CompiledFilter.compile entityShape filterShape [binding.inverted]).expr filter =
        (CompiledFilter.compile entityShape filterShape [binding]).expr filter ∧
      binding.inverted.inverted.constraint = binding.constraint ∧
      (CompiledFilter.compile entityShape filterShape [binding.inverted.inverted]).expr filter =
        (CompiledFilter.compile entityShape filterShape [binding]).expr filter := by
  have once := binding.fragment?_inverted filter
  have twice := binding.inverted.fragment?_inverted filter
  exact ⟨CompiledFilter.expr_congr once, binding.constraint_inverted_inverted,
    CompiledFilter.expr_congr (twice.trans once)⟩

end RecordFilter
