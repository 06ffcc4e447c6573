import RecordFilter.Proofs.Dependence

set_option autoImplicit false

/-!
Fields that change their positions. Every tree, every binding and every compiled binding has an
image under a move of the positions it mentions. Compiling and binding to a filter record commute
with moves, and over records whose values are moved along an image has the value of the original.
-/

namespace RecordFilter

/-- Where the fields of an entity shape and those of a filter shape are moved. -/
structure Moves where
  entity : Nat → Nat
  filter : Nat → Nat

/-- Whether a record holds at the new positions what another one holds at the old ones. -/
def Record.IsMoved (move : Nat → Nat) (first second : Record) : Prop :=
  ∀ index, second.get (move index) = first.get index

namespace Expr

/-- The tree with its fields at their new positions. -/
def moved (moves : Moves) : Expr → Expr
  | literal value => literal value
  | field index => field (moves.entity index)
  | filterField index => filterField (moves.filter index)
  | convert operand target => convert (operand.moved moves) target
  | compare op left right => compare op (left.moved moves) (right.moved moves)
  | and left right => and (left.moved moves) (right.moved moves)
  | or left right => or (left.moved moves) (right.moved moves)
  | not operand => not (operand.moved moves)
  | isNull operand => isNull (operand.moved moves)
  | isNotNull operand => isNotNull (operand.moved moves)
  | contains collection item => contains (collection.moved moves) (item.moved moves)
  | text op value pattern comparison =>
    text op (value.moved moves) (pattern.moved moves) comparison
  | textIn collection item comparison =>
    textIn (collection.moved moves) (item.moved moves) comparison

variable {moves : Moves} (expr operand : Expr)

theorem entityFields_moved :
    (expr.moved moves).entityFields = expr.entityFields.map moves.entity := by
  induction expr <;> simp only [moved, entityFields, List.map_append, List.map_nil,
    List.map_singleton, *]

theorem filterFields_moved :
    (expr.moved moves).filterFields = expr.filterFields.map moves.filter := by
  induction expr <;> simp only [moved, filterFields, List.map_append, List.map_nil,
    List.map_singleton, *]

theorem moved_convertIf (target : Option NumericType) :
    (operand.convertIf target).moved moves = (operand.moved moves).convertIf target := by
  cases target <;> rfl

theorem moved_negatedIf (negated : Bool) :
    (operand.negatedIf negated).moved moves = (operand.moved moves).negatedIf negated := by
  cases negated <;> rfl

theorem moved_lookup (item : Expr) (comparison : Option StringComparison) :
    (operand.lookup item comparison).moved moves =
      (operand.moved moves).lookup (item.moved moves) comparison := by
  cases comparison <;> rfl

theorem moved_convertLiteral (target : NumericType) :
    (operand.convertLiteral target).moved moves =
      (operand.moved moves).convertLiteral target := by
  cases operand with
  | literal value =>
      simp only [convertLiteral, moved]
      cases value.widen target <;> rfl
  | _ => rfl

theorem moved_foldl (join : Expr → Expr → Expr)
    (joins : ∀ left right, (join left right).moved moves =
      join (left.moved moves) (right.moved moves)) (first : Expr) (conditions : List Expr) :
    (conditions.foldl join first).moved moves =
      (conditions.map (·.moved moves)).foldl join (first.moved moves) := by
  induction conditions generalizing first with
  | nil => rfl
  | cons next rest ih => rw [List.foldl_cons, ih, joins, List.map_cons, List.foldl_cons]

theorem moved_conjunction (conditions : List Expr) :
    (conjunction conditions).moved moves = conjunction (conditions.map (·.moved moves)) := by
  cases conditions with
  | nil => rfl
  | cons first rest => exact moved_foldl and (fun _ _ => rfl) first rest

theorem moved_disjunction (conditions : List Expr) :
    (disjunction conditions).moved moves = disjunction (conditions.map (·.moved moves)) := by
  cases conditions with
  | nil => rfl
  | cons first rest => exact moved_foldl or (fun _ _ => rfl) first rest

/-- Binding to a record whose values are moved along comes to the image. -/
theorem bind_moved {first second : Record} (along : first.IsMoved moves.filter second) :
    (expr.moved moves).bind second = (expr.bind first).moved moves := by
  induction expr with
  | filterField index => exact congrArg literal (along index)
  | _ => simp only [moved, bind, moved_convertLiteral, *]

theorem eval_moved {first second : Record} (along : first.IsMoved moves.entity second) :
    (expr.moved moves).eval second none = expr.eval first none := by
  induction expr with
  | field index => exact along index
  | _ => simp only [moved, eval, Option.elim_none, *]

theorem holds_moved {first second : Record} (along : first.IsMoved moves.entity second) :
    (expr.moved moves).holds second none = expr.holds first none :=
  congrArg Value.isTrue (expr.eval_moved along)

end Expr

/-! The images of bindings. -/

def Property.moved (move : Nat → Nat) (property : Property) : Property :=
  { property with index := move property.index }

def RangeSide.moved (move : Nat → Nat) (side : RangeSide) : RangeSide :=
  { side with bound := side.bound.moved move }

def Constraint.moved (moves : Moves) : Constraint → Constraint
  | compare entity filter op plan =>
    compare (entity.moved moves.entity) (filter.moved moves.filter) op plan
  | contain entity filter op convert comparison =>
    contain (entity.moved moves.entity) (filter.moved moves.filter) op convert comparison
  | member entity filter op convert comparison =>
    member (entity.moved moves.entity) (filter.moved moves.filter) op convert comparison
  | text entity filter op comparison =>
    text (entity.moved moves.entity) (filter.moved moves.filter) op comparison
  | filterRange entity min max =>
    filterRange (entity.moved moves.entity) (min.moved moves.filter) (max.moved moves.filter)
  | entityRange filter min max =>
    entityRange (filter.moved moves.filter) (min.moved moves.entity) (max.moved moves.entity)
  | raw label expr => raw label (expr.moved moves)

def Binding.moved (moves : Moves) (binding : Binding) : Binding :=
  { binding with constraint := binding.constraint.moved moves }

def Side.moved (moves : Moves) (side : Side) : Side where
  normal := side.normal.moved moves
  inverse := side.inverse.moved moves
  guard := side.guard.map moves.filter
  nullOperand := side.nullOperand.map moves.entity

def CompiledBinding.moved (moves : Moves) (binding : CompiledBinding) : CompiledBinding :=
  { binding with
    sides := binding.sides.map (·.moved moves)
    defaultIgnore := binding.defaultIgnore.map moves.filter }

variable {moves : Moves}

namespace Property

variable (property : Property) (move : Nat → Nat)

@[simp] theorem index_moved : (property.moved move).index = move property.index := rfl

theorem nullableIndex_moved :
    (property.moved move).nullableIndex = property.nullableIndex.map move := by
  rw [nullableIndex, nullableIndex, apply_ite (Option.map move)]
  rfl

theorem ignoreIndex_moved (rules : Rules) :
    (property.moved move).ignoreIndex rules = (property.ignoreIndex rules).map move := by
  rw [ignoreIndex, ignoreIndex, apply_ite (Option.map move)]
  rfl

end Property

namespace Constraint

variable (constraint : Constraint)

theorem key?_moved : (constraint.moved moves).key? = constraint.key? := by
  cases constraint <;> rfl

theorem label_moved : (constraint.moved moves).label = constraint.label := by
  cases constraint <;> rfl

theorem entityFields_moved :
    (constraint.moved moves).entityFields = constraint.entityFields.map moves.entity := by
  cases constraint with
  | raw label expr => exact expr.entityFields_moved
  | _ => rfl

theorem filterFields_moved :
    (constraint.moved moves).filterFields = constraint.filterFields.map moves.filter := by
  cases constraint with
  | raw label expr => exact expr.filterFields_moved
  | _ => rfl

theorem sides_moved (rules : Rules) :
    (constraint.moved moves).sides rules =
      (constraint.sides rules).map (·.moved moves) := by
  cases constraint with
  | text entity filter op comparison =>
      cases membership : op.isMembership <;>
        simp [moved, sides, Side.demanding, Side.moved, Property.nullableIndex_moved,
          Expr.moved_negatedIf, Expr.moved, membership]
  | _ =>
      simp [moved, sides, Side.comparing, Side.demanding, Side.ofFilterEnd, Side.ofEntityEnd,
        Side.moved, RangeSide.moved, Property.nullableIndex_moved, Property.ignoreIndex_moved,
        Expr.moved_negatedIf, Expr.moved_lookup, Expr.moved_convertIf, Expr.moved]

theorem defaultIgnore_moved (rules : Rules) :
    (constraint.moved moves).defaultIgnore rules =
      (constraint.defaultIgnore rules).map moves.filter := by
  cases constraint with
  | filterRange | raw => rfl
  | _ => exact Property.ignoreIndex_moved _ _ _

theorem applicable_moved (rules : Rules) :
    (constraint.moved moves).applicable rules = constraint.applicable rules := by
  cases constraint <;> rfl

end Constraint

theorem Binding.key?_moved (binding : Binding) : (binding.moved moves).key? = binding.key? :=
  binding.constraint.key?_moved

theorem Binding.entityFields_moved (binding : Binding) :
    (binding.moved moves).entityFields = binding.entityFields.map moves.entity :=
  binding.constraint.entityFields_moved

theorem Binding.filterFields_moved (binding : Binding) :
    (binding.moved moves).filterFields = binding.filterFields.map moves.filter :=
  binding.constraint.filterFields_moved

theorem Binding.compile_moved (binding : Binding) :
    (binding.moved moves).compile = binding.compile.moved moves := by
  simp only [compile, moved, CompiledBinding.moved, label, Constraint.label_moved,
    Constraint.sides_moved, Constraint.applicable_moved, Constraint.defaultIgnore_moved]

/-! What is demanded for a record whose values are moved along. -/

section Along

variable {first second : Record} (along : first.IsMoved moves.filter second)

include along

theorem Side.isActive_moved (side : Side) :
    (side.moved moves).isActive second = side.isActive first := by
  cases guarded : side.guard with
  | none => simp [isActive, moved, guarded]
  | some index => simp [isActive, moved, guarded, along index]

theorem Side.condition_moved (side : Side) (reversed : Bool) (nulls : Option Bool) :
    (side.moved moves).condition second reversed nulls =
      (side.condition first reversed nulls).moved moves := by
  have base : (if reversed then (side.moved moves).inverse else (side.moved moves).normal).bind
      second = ((if reversed then side.inverse else side.normal).bind first).moved moves := by
    cases reversed with
    | false => exact side.normal.bind_moved along
    | true => exact side.inverse.bind_moved along
  have operand : (side.moved moves).nullOperand = side.nullOperand.map moves.entity := rfl
  unfold condition
  rw [base, operand]
  cases nulls with
  | none => rfl
  | some admitted => cases admitted <;> cases side.nullOperand <;> rfl

namespace CompiledBinding

variable {binding : CompiledBinding} (alike : binding.rules.AnswerAlike first second)

include alike

theorem isIgnored_moved : (binding.moved moves).isIgnored second = binding.isIgnored first := by
  have dropped : (binding.moved moves).rules.drops second = binding.rules.drops first :=
    alike.drops_eq.symm
  rw [isIgnored, isIgnored, dropped]
  cases ignores : binding.defaultIgnore with
  | none => simp [moved, ignores]
  | some index => simp [moved, ignores, along index]

theorem conditions_moved :
    (binding.moved moves).conditions second =
      (binding.conditions first).map (·.moved moves) := by
  have reversal : (binding.moved moves).rules.isReversed second =
      binding.rules.isReversed first := alike.isReversed_eq.symm
  have nulls : (binding.moved moves).rules.nullDecision second =
      binding.rules.nullDecision first := alike.nullDecision_eq.symm
  have active : (binding.moved moves).sides.filter (·.isActive second) =
      (binding.sides.filter (·.isActive first)).map (·.moved moves) := by
    rw [moved, List.filter_map]
    exact congrArg _ (List.filter_congr fun side _ => side.isActive_moved along)
  rw [conditions, conditions, reversal, nulls, active, List.map_map, List.map_map]
  exact List.map_congr_left fun side _ => side.condition_moved along _ _

/-- The demand is the image of the demand. -/
theorem fragment?_moved :
    (binding.moved moves).fragment? second = (binding.fragment? first).map (·.moved moves) := by
  have reversal : (binding.moved moves).rules.isReversed second =
      binding.rules.isReversed first := alike.isReversed_eq.symm
  rw [fragment?_eq, fragment?_eq, isIgnored_moved along alike, conditions_moved along alike,
    reversal]
  cases binding.isIgnored first with
  | true => rfl
  | false =>
      cases made : binding.conditions first with
      | nil => rfl
      | cons condition rest =>
          cases binding.rules.isReversed first with
          | false => exact congrArg some (Expr.moved_conjunction (condition :: rest)).symm
          | true => exact congrArg some (Expr.moved_disjunction (condition :: rest)).symm

end CompiledBinding

/-- An image accepts what the original accepts. -/
theorem Binding.accepts_moved {binding : Binding} (alike : binding.rules.AnswerAlike first second)
    {left right : Record} (entities : left.IsMoved moves.entity right) :
    (binding.moved moves).accepts second right = binding.accepts first left := by
  have applicable : binding.compile.rules.AnswerAlike first second :=
    alike.applicable binding.constraint
  have demanded := CompiledBinding.fragment?_moved along applicable
  rw [accepts, accepts, compile_moved, CompiledBinding.accepts, CompiledBinding.accepts, demanded]
  cases binding.compile.fragment? first with
  | none => rfl
  | some tree => exact tree.holds_moved entities

end Along

end RecordFilter
