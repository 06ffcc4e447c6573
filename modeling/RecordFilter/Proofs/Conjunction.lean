import RecordFilter.Proofs.Lowering
import RecordFilter.Proofs.Substitution

set_option autoImplicit false

/-!
A compiled filter is the conjunction of its bindings. Each binding decides by itself, by a condition
of its own or, when it is dropped for the filter record, by accepting everything; the decisions are
joined and nothing is added to them.
-/

namespace RecordFilter

namespace Expr

section Connectives

variable (left right : Expr) (entity : Record) (filter : Option Record)

@[simp] theorem holds_and :
    (and left right).holds entity filter =
      (left.holds entity filter && right.holds entity filter) := rfl

@[simp] theorem holds_or :
    (or left right).holds entity filter =
      (left.holds entity filter || right.holds entity filter) := rfl

@[simp] theorem holds_not : (not left).holds entity filter = !left.holds entity filter := rfl

end Connectives

section Lists

variable (conditions : List Expr) (entity : Record) (filter : Option Record)

theorem holds_foldl_and (first : Expr) :
    (conditions.foldl and first).holds entity filter =
      (first.holds entity filter && conditions.all (·.holds entity filter)) := by
  induction conditions generalizing first with
  | nil => simp
  | cons next rest ih => rw [List.foldl_cons, ih, holds_and, List.all_cons, Bool.and_assoc]

theorem holds_foldl_or (first : Expr) :
    (conditions.foldl or first).holds entity filter =
      (first.holds entity filter || conditions.any (·.holds entity filter)) := by
  induction conditions generalizing first with
  | nil => simp
  | cons next rest ih => rw [List.foldl_cons, ih, holds_or, List.any_cons, Bool.or_assoc]

/-- However it is grouped, a conjunction holds when all its conditions do. -/
theorem holds_conjunction :
    (conjunction conditions).holds entity filter = conditions.all (·.holds entity filter) := by
  cases conditions with
  | nil => rfl
  | cons first rest => rw [conjunction, holds_foldl_and, List.all_cons]

theorem holds_disjunction :
    (disjunction conditions).holds entity filter = conditions.any (·.holds entity filter) := by
  cases conditions with
  | nil => rfl
  | cons first rest => rw [disjunction, holds_foldl_or, List.any_cons]

end Lists

theorem holds_bind (expr : Expr) (filter entity : Record) :
    (expr.bind filter).holds entity none = expr.holds entity (some filter) := by
  rw [holds, eval_bind, holds]

end Expr

/-- Whether an entity record meets what the binding demands for a filter record. -/
def CompiledBinding.accepts (binding : CompiledBinding) (filter entity : Record) : Bool :=
  (binding.fragment? filter).all (·.holds entity none)

/-- Whether an entity record meets what the binding demands for a filter record. -/
def Binding.accepts (binding : Binding) (filter entity : Record) : Bool :=
  binding.compile.accepts filter entity

namespace CompiledFilter

/-- The demands of all bindings hold together when each binding accepts. -/
theorem holds_conjunction_fragments (compiled : CompiledFilter) (filter entity : Record) :
    (Expr.conjunction (compiled.bindings.filterMap (·.fragment? filter))).holds entity none =
      compiled.bindings.all (·.accepts filter entity) := by
  rw [Expr.holds_conjunction, List.all_filterMap]
  rfl

/-- On records of its shapes a compiled filter answers, with the conjunction of its bindings. -/
theorem accepts_of_shapes {compiled : CompiledFilter} {filter entity : Record}
    (filterShape : filter.shape.name = compiled.filterShape.name)
    (entityShape : entity.shape.name = compiled.entityShape.name) :
    compiled.accepts filter entity =
      .ok (compiled.bindings.all (·.accepts filter entity)) := by
  rw [accepts, Shape.checkRecord_of_name_eq entityShape, expr_of_shape filterShape,
    ← compiled.holds_conjunction_fragments]
  rfl

theorem accepts_compile {entityShape filterShape : Shape} (bindings : List Binding)
    {filter entity : Record} (ofFilter : filter.shape.name = filterShape.name)
    (ofEntity : entity.shape.name = entityShape.name) :
    (compile entityShape filterShape bindings).accepts filter entity =
      .ok (bindings.all (·.accepts filter entity)) := by
  rw [accepts_of_shapes ofFilter ofEntity, compile, List.all_map]
  rfl

end CompiledFilter

namespace Property

/-- Whether a filter property can be null and is. -/
def isNullIn (property : Property) (filter : Record) : Bool :=
  property.canBeNull && (filter.get property.index).isNull

theorem ignoreIndex_any (property : Property) (rules : Rules) (filter : Record) :
    (property.ignoreIndex rules).any (fun index => (filter.get index).isNull) =
      (rules.usesDefaultIgnore && property.isNullIn filter) := by
  unfold ignoreIndex isNullIn
  cases property.canBeNull <;> cases rules.usesDefaultIgnore <;> rfl

end Property

namespace Constraint

/-- Whether there is no filter value to compare with. A range set by the filter has two values,
and lacks a value only when both are null. -/
def lacksFilterValue (filter : Record) : Constraint → Bool
  | compare _ property .. | contain _ property .. | member _ property .. | text _ property ..
  | entityRange property .. => property.isNullIn filter
  | filterRange _ min max => min.bound.isNullIn filter && max.bound.isNullIn filter
  | raw .. => false

end Constraint

/-- Whether the binding demands nothing for a filter record. Of the rules of a raw constraint only
the exclusions count. -/
def Binding.isDropped (binding : Binding) (filter : Record) : Bool :=
  match binding.constraint with
  | .raw .. => binding.rules.exclusions.any (· filter)
  | constraint => binding.rules.drops filter ||
      (binding.rules.usesDefaultIgnore && constraint.lacksFilterValue filter)

namespace CompiledBinding

/-- A binding demands nothing when it is ignored or none of its sides counts. -/
theorem fragment?_eq_none_iff (binding : CompiledBinding) (filter : Record) :
    binding.fragment? filter = none ↔
      binding.isIgnored filter = true ∨ ∀ side ∈ binding.sides, side.isActive filter = false := by
  unfold fragment?
  by_cases ignored : binding.isIgnored filter = true
  · simp [ignored]
  · cases active : binding.sides.filter (·.isActive filter) with
    | nil => simpa [ignored, List.filter_eq_nil_iff] using active
    | cons side rest =>
        have counts : side ∈ binding.sides.filter (·.isActive filter) := by simp [active]
        rw [List.mem_filter] at counts
        simp only [ignored, Bool.false_eq_true, ↓reduceIte, List.map_cons, false_or,
          reduceCtorEq, false_iff]
        intro none
        rw [none side counts.1] at counts
        exact Bool.false_ne_true counts.2

end CompiledBinding

namespace Side

theorem isActive_eq_not_any (side : Side) (filter : Record) :
    side.isActive filter = !side.guard.any fun index => (filter.get index).isNull := by
  unfold isActive
  cases side.guard <;> rfl

theorem isActive_of_unguarded {side : Side} (unguarded : side.guard = none) (filter : Record) :
    side.isActive filter = true := by
  rw [isActive, unguarded, Option.all_none]

/-- An end of a range counts unless its value is null and the default applies. -/
theorem isActive_ofFilterEnd (entity : Property) (rules : Rules) (side : RangeSide)
    (op : CompareOp) (filter : Record) :
    (ofFilterEnd entity rules side op).isActive filter =
      !(rules.usesDefaultIgnore && side.bound.isNullIn filter) := by
  rw [isActive_eq_not_any, ← Property.ignoreIndex_any]
  rfl

end Side

theorem CompiledBinding.fragment?_eq_none_iff_isIgnored {binding : CompiledBinding} {side : Side}
    (member : side ∈ binding.sides) (unguarded : side.guard = none) (filter : Record) :
    binding.fragment? filter = none ↔ binding.isIgnored filter = true := by
  rw [fragment?_eq_none_iff, or_iff_left]
  intro inactive
  have active := side.isActive_of_unguarded unguarded filter
  rw [inactive side member] at active
  exact Bool.false_ne_true active

namespace Binding

theorem isIgnored_compile (binding : Binding) (filter : Record) :
    binding.compile.isIgnored filter =
      ((binding.constraint.applicable binding.rules).drops filter ||
        (binding.constraint.defaultIgnore binding.rules).any
          fun index => (filter.get index).isNull) := rfl

/-- The compiled form of a binding demands nothing exactly when the binding is dropped. -/
theorem fragment?_eq_none_iff (binding : Binding) (filter : Record) :
    binding.compile.fragment? filter = none ↔ binding.isDropped filter = true := by
  obtain ⟨constraint, rules⟩ := binding
  cases constraint with
  | filterRange entity min max =>
      -- Nothing ignores the range as a whole; it goes when both of its sides do.
      rw [CompiledBinding.fragment?_eq_none_iff, isIgnored_compile]
      simp only [Constraint.applicable, Constraint.defaultIgnore, compile, Constraint.sides,
        Side.isActive_ofFilterEnd, isDropped, Constraint.lacksFilterValue, List.mem_cons,
        List.not_mem_nil, or_false, forall_eq_or_imp, forall_eq, Option.any_none]
      cases rules.drops filter <;> cases rules.usesDefaultIgnore <;> simp
  | raw label expr =>
      rw [CompiledBinding.fragment?_eq_none_iff_isIgnored List.mem_cons_self rfl,
        isIgnored_compile]
      simp [Constraint.applicable, Rules.drops, Constraint.defaultIgnore, isDropped]
  | _ =>
      rw [CompiledBinding.fragment?_eq_none_iff_isIgnored List.mem_cons_self rfl,
        isIgnored_compile, Constraint.defaultIgnore, Property.ignoreIndex_any]
      rfl

theorem accepts_of_isDropped {binding : Binding} {filter : Record}
    (dropped : binding.isDropped filter = true) (entity : Record) :
    binding.accepts filter entity = true := by
  rw [accepts, CompiledBinding.accepts, (binding.fragment?_eq_none_iff filter).mpr dropped,
    Option.all_none]

/-- A raw condition is taken as it is, with the filter record beside it. -/
theorem accepts_raw (label : String) (expr : Expr) (rules : Rules) (filter entity : Record) :
    (⟨.raw label expr, rules⟩ : Binding).accepts filter entity =
      (rules.exclusions.any (· filter) || expr.holds entity (some filter)) := by
  cases dropped : rules.exclusions.any (· filter) with
  | true => exact accepts_of_isDropped (by exact dropped) entity
  | false =>
      have kept : (⟨.raw label expr, rules⟩ : Binding).compile.isIgnored filter = false := by
        rw [isIgnored_compile]
        simp [Constraint.applicable, Rules.drops, Constraint.defaultIgnore, dropped]
      rw [Bool.false_or, ← Expr.holds_bind, accepts, CompiledBinding.accepts,
        CompiledBinding.fragment?, kept]
      rfl

theorem isDropped_of_not_raw {constraint : Constraint} {rules : Rules}
    (notRaw : ∀ label expr, constraint ≠ .raw label expr) (filter : Record) :
    (⟨constraint, rules⟩ : Binding).isDropped filter =
      (rules.drops filter || (rules.usesDefaultIgnore && constraint.lacksFilterValue filter)) := by
  cases constraint with
  | raw label expr => exact absurd rfl (notRaw label expr)
  | _ => rfl

end Binding

/-- A compiled filter is the conjunction of its bindings and nothing else: it accepts an entity
record when the filter of each single binding does, so that neither order nor repetition nor
grouping matters. A binding accepts everything when a rule drops it, or when no rule decides about
null and it has no filter value to compare with. A raw condition counts as it is, unless one of its
exclusions holds. -/
theorem compiled_filter_is_conjunction {entityShape filterShape : Shape} {filter entity : Record}
    (ofFilter : filter.shape.name = filterShape.name)
    (ofEntity : entity.shape.name = entityShape.name) :
    (CompiledFilter.compile entityShape filterShape []).accepts filter entity = .ok true ∧
    (∀ bindings, ∃ accepted,
      (CompiledFilter.compile entityShape filterShape bindings).accepts filter entity =
          .ok accepted ∧
        (accepted = true ↔ ∀ binding ∈ bindings,
          (CompiledFilter.compile entityShape filterShape [binding]).accepts filter entity =
            .ok true)) ∧
    (∀ bindings others, (∀ binding, binding ∈ bindings ↔ binding ∈ others) →
      (CompiledFilter.compile entityShape filterShape bindings).accepts filter entity =
        (CompiledFilter.compile entityShape filterShape others).accepts filter entity) ∧
    (∀ groups : List (List Binding),
      (CompiledFilter.compile entityShape filterShape groups.flatten).accepts filter entity =
          .ok true ↔
        ∀ group ∈ groups,
          (CompiledFilter.compile entityShape filterShape group).accepts filter entity =
            .ok true) ∧
    (∀ constraint rules, (∀ label expr, constraint ≠ .raw label expr) →
      rules.ignoreIf.any (· filter) = true ∨ rules.exclusions.any (· filter) = true ∨
        (rules.ignoreIf = none ∧ rules.includeNullIf = none ∧
          constraint.lacksFilterValue filter = true) →
      (CompiledFilter.compile entityShape filterShape [⟨constraint, rules⟩]).accepts filter entity =
        .ok true) ∧
    ∀ label expr rules,
      (CompiledFilter.compile entityShape filterShape [⟨.raw label expr, rules⟩]).accepts
          filter entity =
        .ok (rules.exclusions.any (· filter) || expr.holds entity (some filter)) := by
  have answer := fun bindings =>
    CompiledFilter.accepts_compile bindings ofFilter ofEntity
  simp only [answer, List.all_cons, List.all_nil, Bool.and_true, Except.ok.injEq]
  refine ⟨trivial, ?_, ?_, ?_, ?_, ?_⟩
  · intro bindings
    exact ⟨_, rfl, List.all_eq_true⟩
  · intro bindings others same
    rw [Bool.eq_iff_iff, List.all_eq_true, List.all_eq_true]
    simp only [same]
  · intro groups
    simp only [List.all_eq_true, List.mem_flatten]
    constructor
    · intro all group member binding inside
      exact all binding ⟨group, member, inside⟩
    · rintro all binding ⟨group, member, inside⟩
      exact all group member binding inside
  · intro constraint rules notRaw reason
    apply Binding.accepts_of_isDropped
    rw [Binding.isDropped_of_not_raw notRaw]
    rcases reason with ignored | excluded | ⟨noIgnore, noNull, lacking⟩
    · simp [Rules.drops, ignored]
    · simp [Rules.drops, excluded]
    · simp [Rules.usesDefaultIgnore, noIgnore, noNull, lacking]
  · intro label expr rules
    exact Binding.accepts_raw label expr rules filter entity

/-- The name is the filter's, if that is set. -/
def nameBinding : Binding where
  constraint := .text ⟨"Name", 0, .string⟩ ⟨"Name", 0, .string⟩ .equal .caseSensitive
  rules := {}

theorem compiled_filter_is_conjunction_dune :
    fromTheSixties.shape.name = bookFilterShape.name ∧ dune.shape.name = bookShape.name ∧
      (CompiledFilter.compile bookShape bookFilterShape [nameBinding]).accepts fromTheSixties dune =
        .ok true ∧
      ∃ accepted,
        (CompiledFilter.compile bookShape bookFilterShape [yearBinding, nameBinding]).accepts
            fromTheSixties dune = .ok accepted ∧
          (accepted = true ↔ ∀ binding ∈ [yearBinding, nameBinding],
            (CompiledFilter.compile bookShape bookFilterShape [binding]).accepts
              fromTheSixties dune = .ok true) := by
  obtain ⟨_, decided, _, _, dropped, _⟩ := compiled_filter_is_conjunction
    (rfl : fromTheSixties.shape.name = bookFilterShape.name)
    (rfl : dune.shape.name = bookShape.name)
  have null := dropped nameBinding.constraint {} (fun _ _ raw => nomatch raw)
    (Or.inr (Or.inr ⟨rfl, rfl, rfl⟩))
  exact ⟨rfl, rfl, null, decided [yearBinding, nameBinding]⟩

end RecordFilter
