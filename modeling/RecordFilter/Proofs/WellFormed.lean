import RecordFilter.Proofs.Candidates
import RecordFilter.Proofs.Dependence
import RecordFilter.Proofs.Registrations

set_option autoImplicit false

/-!
Registered bindings are well formed. Resolving a declaration checks its properties, its types and
its rule about null, each kind of declaration in an order of its own; string bindings leave out the
check of the rule, which is idle as strings can be null. What discovery finds is resolved as well,
and attaching conditions changes none of this, so every binding of a builder has passed the checks.
-/

namespace RecordFilter

open RecordFilter.Except (bind_eq_ok_iff mapError_eq_ok_iff pure_eq_ok_iff)

theorem ValueType.canBeNull_of_isString {type : ValueType} (isString : type.isString = true) :
    type.canBeNull = true := by
  have string : type.underlying = .string := eq_of_beq isString
  cases type with
  | string => rfl
  | nullable inner => rfl
  | _ => nomatch string

namespace Property

variable {entity filter collection item : Property}

theorem IsOf.lt_length {property : Property} {shape : Shape} (isOf : property.IsOf shape) :
    property.index < shape.fields.length :=
  (List.getElem?_eq_some_iff.mp isOf).1

theorem comparisonPlan_eq_ok_iff {op : CompareOp} {plan : ConversionPlan} :
    entity.comparisonPlan filter op = .ok plan ↔
      entity.type.comparisonPlan filter.type op = .ok plan :=
  mapError_eq_ok_iff

theorem containmentPlan_eq_ok_iff {convert : Option NumericType} :
    collection.containmentPlan item = .ok convert ↔
      ∃ element, collection.type.element? = some element ∧
        element.containmentPlan item.type = .ok convert := by
  unfold containmentPlan
  cases collection.type.element? with
  | none => simp
  | some element => simp [mapError_eq_ok_iff]

end Property

theorem Rules.checkNullInclusion_eq_ok_iff {rules : Rules} {first : Property}
    {others : List Property} :
    rules.checkNullInclusion first others = .ok () ↔
      (rules.includeNullIf.isSome = true →
        ∃ operand ∈ first :: others, operand.canBeNull = true) := by
  unfold checkNullInclusion
  rw [← List.any_eq_true]
  cases rules.includeNullIf <;> cases (first :: others).any (·.canBeNull) <;> simp

namespace Constraint

/-- Whether the types of the properties may be related by the operator, with the conversions that
the constraint holds. -/
def IsAccepted : Constraint → Prop
  | compare entity filter op plan => entity.type.comparisonPlan filter.type op = .ok plan
  | contain entity filter _ convert _ => ∃ element, entity.type.element? = some element ∧
    element.containmentPlan filter.type = .ok convert
  | member entity filter _ convert _ => ∃ element, filter.type.element? = some element ∧
    element.containmentPlan entity.type = .ok convert
  | text entity filter op _ => entity.type.checkStrings filter.type op = .ok ()
  | filterRange entity min max =>
    entity.type.comparisonPlan min.bound.type min.kind.lowerOp = .ok min.plan ∧
      entity.type.comparisonPlan max.bound.type max.kind.upperOp = .ok max.plan
  | entityRange filter min max =>
    min.bound.type.comparisonPlan filter.type min.kind.lowerOp = .ok min.plan ∧
      max.bound.type.comparisonPlan filter.type max.kind.upperOp = .ok max.plan
  | raw .. => True

/-- The properties of the entity that the constraint relates to the filter. -/
def entityOperands : Constraint → List Property
  | compare entity .. | contain entity .. | member entity .. | text entity ..
  | filterRange entity .. => [entity]
  | entityRange _ min max => [min.bound, max.bound]
  | raw .. => []

variable {constraint : Constraint} {entity filter : Shape}

/-- What speaks of fields of the shapes lists no position behind their last field. -/
theorem IsOf.lt_length (isOf : constraint.IsOf entity filter) :
    (∀ index ∈ constraint.entityFields, index < entity.fields.length) ∧
      ∀ index ∈ constraint.filterFields, index < filter.fields.length := by
  cases constraint with
  | filterRange property min max =>
      obtain ⟨ofProperty, ofMin, ofMax⟩ := isOf
      constructor
      · exact List.forall_mem_singleton.mpr ofProperty.lt_length
      · exact List.forall_mem_cons.mpr
          ⟨ofMin.lt_length, List.forall_mem_singleton.mpr ofMax.lt_length⟩
  | entityRange property min max =>
      obtain ⟨ofProperty, ofMin, ofMax⟩ := isOf
      constructor
      · exact List.forall_mem_cons.mpr
          ⟨ofMin.lt_length, List.forall_mem_singleton.mpr ofMax.lt_length⟩
      · exact List.forall_mem_singleton.mpr ofProperty.lt_length
  | raw label expr => exact isOf
  | _ =>
      obtain ⟨ofEntity, ofFilter⟩ := isOf
      constructor
      · exact List.forall_mem_singleton.mpr ofEntity.lt_length
      · exact List.forall_mem_singleton.mpr ofFilter.lt_length

end Constraint

/-- What the checks of a declaration ensure of its binding. -/
structure Binding.WellFormed (binding : Binding) (entity filter : Shape) : Prop where
  isOf : binding.constraint.IsOf entity filter
  accepted : binding.constraint.IsAccepted
  nulls : binding.rules.includeNullIf.isSome = true →
    ∃ operand ∈ binding.constraint.entityOperands, operand.canBeNull = true

namespace Declaration

variable {declaration : Declaration} {entity filter : Shape} {settings : Settings}
  {binding : Binding}

theorem isAccepted_of_resolve
    (resolved : declaration.resolve entity filter settings = .ok binding) :
    binding.constraint.IsAccepted := by
  cases declaration with
  | compare entityName filterName op rules =>
      simp only [resolve, bind_eq_ok_iff, pure_eq_ok_iff] at resolved
      obtain ⟨e, -, f, -, -, -, plan, planned, rfl⟩ := resolved
      exact Property.comparisonPlan_eq_ok_iff.mp planned
  | contain entityName filterName op comparison rules =>
      simp only [resolve, bind_eq_ok_iff, pure_eq_ok_iff] at resolved
      obtain ⟨e, -, f, -, -, -, convert, planned, rfl⟩ := resolved
      exact Property.containmentPlan_eq_ok_iff.mp planned
  | member entityName filterName op comparison rules =>
      simp only [resolve, bind_eq_ok_iff, pure_eq_ok_iff] at resolved
      obtain ⟨e, -, f, -, -, -, convert, planned, rfl⟩ := resolved
      exact Property.containmentPlan_eq_ok_iff.mp planned
  | text entityName filterName op comparison rules =>
      simp only [resolve, bind_eq_ok_iff, pure_eq_ok_iff] at resolved
      obtain ⟨e, -, f, -, ⟨⟩, checked, rfl⟩ := resolved
      exact mapError_eq_ok_iff.mp checked
  | filterRange minName entityName maxName lower upper rules =>
      simp only [resolve, bind_eq_ok_iff, pure_eq_ok_iff] at resolved
      obtain ⟨e, -, min, -, max, -, -, -, minPlan, minPlanned, maxPlan, maxPlanned, rfl⟩ := resolved
      exact ⟨Property.comparisonPlan_eq_ok_iff.mp minPlanned,
        Property.comparisonPlan_eq_ok_iff.mp maxPlanned⟩
  | entityRange minName filterName maxName lower upper rules =>
      simp only [resolve, bind_eq_ok_iff, pure_eq_ok_iff] at resolved
      obtain ⟨f, -, min, -, max, -, -, -, minPlan, minPlanned, maxPlan, maxPlanned, rfl⟩ := resolved
      exact ⟨Property.comparisonPlan_eq_ok_iff.mp minPlanned,
        Property.comparisonPlan_eq_ok_iff.mp maxPlanned⟩
  | raw label expr =>
      simp only [resolve, bind_eq_ok_iff, pure_eq_ok_iff] at resolved
      obtain ⟨-, -, -, -, rfl⟩ := resolved
      trivial

/-- A rule about null is checked, or the operand is a string and can be null anyway. -/
theorem nullable_of_resolve (resolved : declaration.resolve entity filter settings = .ok binding)
    (decides : binding.rules.includeNullIf.isSome = true) :
    ∃ operand ∈ binding.constraint.entityOperands, operand.canBeNull = true := by
  cases declaration with
  | text entityName filterName op comparison rules =>
      simp only [resolve, bind_eq_ok_iff, pure_eq_ok_iff] at resolved
      obtain ⟨e, -, f, -, ⟨⟩, checked, rfl⟩ := resolved
      have isString := (Property.checkStrings_eq_ok_iff.mp checked).1
      exact ⟨e, List.mem_singleton_self e, ValueType.canBeNull_of_isString isString⟩
  | filterRange | entityRange =>
      simp only [resolve, bind_eq_ok_iff, pure_eq_ok_iff] at resolved
      obtain ⟨_, -, _, -, _, -, ⟨⟩, checked, _, -, _, -, rfl⟩ := resolved
      exact Rules.checkNullInclusion_eq_ok_iff.mp checked decides
  | raw label expr =>
      simp only [resolve, bind_eq_ok_iff, pure_eq_ok_iff] at resolved
      obtain ⟨-, -, -, -, rfl⟩ := resolved
      cases decides
  | _ =>
      simp only [resolve, bind_eq_ok_iff, pure_eq_ok_iff] at resolved
      obtain ⟨_, -, _, -, ⟨⟩, checked, _, -, rfl⟩ := resolved
      exact Rules.checkNullInclusion_eq_ok_iff.mp checked decides

theorem wellFormed_of_resolve
    (resolved : declaration.resolve entity filter settings = .ok binding) :
    binding.WellFormed entity filter where
  isOf := isOf_of_resolve resolved
  accepted := isAccepted_of_resolve resolved
  nulls := nullable_of_resolve resolved

end Declaration

namespace Configuration

/-- Whether all bindings declared so far are well formed. -/
def IsWellFormed (config : Configuration) : Prop :=
  ∀ binding ∈ config.bindings, binding.WellFormed config.entity config.filter

variable {config next last : Configuration} {call : Call} {calls : List Call}

theorem Accepts.isWellFormed (accepted : config.Accepts call next)
    (wellFormed : config.IsWellFormed) : next.IsWellFormed := by
  cases accepted with
  | declare resolved fresh =>
      rw [IsWellFormed, List.forall_mem_append]
      exact ⟨wellFormed,
        List.forall_mem_singleton.mpr (Declaration.wellFormed_of_resolve resolved)⟩
  | _ => exact wellFormed

theorem isWellFormed_run (new : config.bindings = []) (calls : List Call) :
    (config.run calls).IsWellFormed := by
  apply (config.reaches_run calls).preserves Accepts.isWellFormed
  rw [IsWellFormed, new]
  exact List.forall_mem_nil _

/-- What discovery finds has been resolved. -/
theorem wellFormed_of_mem_discovered {binding : Binding}
    (discovered : binding ∈ discoveredBindings config.findings) :
    binding.WellFormed config.entity config.filter := by
  obtain ⟨name, -, -, -, declaration, foundBy⟩ := mem_discoveredBindings_iff.mp discovered
  exact Declaration.wellFormed_of_resolve foundBy.resolve_eq

theorem IsWellFormed.of_mem_allBindings (wellFormed : config.IsWellFormed) {binding : Binding}
    (member : binding ∈ config.allBindings) : binding.WellFormed config.entity config.filter := by
  rcases List.mem_append.mp member with declared | discovered
  · exact wellFormed binding declared
  · exact wellFormed_of_mem_discovered discovered

/-- Conditions are attached to the rules, and none of them is about null. -/
theorem wellFormed_withExclusions {binding : Binding}
    (wellFormed : binding.WellFormed config.entity config.filter) :
    (config.withExclusions binding).WellFormed config.entity config.filter :=
  ⟨wellFormed.isOf, wellFormed.accepted, wellFormed.nulls⟩

end Configuration

/-- Whether all bindings of a registration are well formed for its shapes. -/
def Registration.IsWellFormed (registration : Registration) : Prop :=
  ∀ binding ∈ registration.bindings, binding.WellFormed registration.entity registration.filter

theorem Configuration.IsWellFormed.of_finish {config : Configuration} {registration : Registration}
    (wellFormed : config.IsWellFormed) (finished : config.finish = .ok registration) :
    registration.IsWellFormed := by
  obtain ⟨-, rfl⟩ := finish_eq_ok_iff.mp finished
  rw [Registration.IsWellFormed, List.forall_mem_map]
  intro binding member
  exact wellFormed_withExclusions (wellFormed.of_mem_allBindings member)

namespace Attempt

theorem isWellFormed_configuration (attempt : Attempt) (settings : Settings) :
    (attempt.configuration settings).IsWellFormed := by
  cases attempt with
  | register entity filter => exact Configuration.isWellFormed_run rfl []
  | configure entity filter calls finished => exact Configuration.isWellFormed_run rfl calls

end Attempt

namespace Builder

def IsWellFormed (builder : Builder) : Prop :=
  ∀ registration ∈ builder.registrations, registration.IsWellFormed

variable {builder next : Builder}

theorem Ends.isWellFormed {attempt : Attempt} {result : Except FilterError Unit}
    (ended : builder.Ends attempt result next) (wellFormed : builder.IsWellFormed) :
    next.IsWellFormed := by
  cases ended with
  | entered new finishes finished =>
      have entered := (attempt.isWellFormed_configuration builder.settings).of_finish finished
      rw [IsWellFormed, insert, List.forall_mem_append]
      constructor
      · intro registration kept
        exact wellFormed registration (List.mem_filter.mp kept).1
      · exact List.forall_mem_singleton.mpr entered
  | _ => exact wellFormed

theorem isWellFormed_run (wellFormed : builder.IsWellFormed) (attempts : List Attempt) :
    (builder.run attempts).IsWellFormed :=
  run_preserves (motive := IsWellFormed) Ends.isWellFormed wellFormed attempts

end Builder

/-! The trees of well-formed bindings speak of fields that exist. -/

/-- A condition has the filter's values in it and asks for none. -/
theorem Side.filterFields_condition (side : Side) (filter : Record) (reversed : Bool)
    (nulls : Option Bool) : (side.condition filter reversed nulls).filterFields = [] := by
  have base (tree : Expr) : (tree.bind filter).filterFields = [] := tree.filterFields_bind filter
  unfold condition
  cases nulls with
  | none => exact base _
  | some admitted =>
      cases side.nullOperand with
      | none => cases admitted <;> exact base _
      | some index => cases admitted <;> simp [Expr.filterFields, base]

theorem CompiledFilter.filterFields_of_expr {compiled : CompiledFilter} {filter : Record}
    {tree : Expr} (found : compiled.expr filter = .ok tree) : tree.filterFields = [] := by
  rw [eq_of_expr found, Expr.filterFields_conjunction, List.flatMap_eq_nil_iff]
  intro fragment demanded
  obtain ⟨binding, -, fragmentOf⟩ := List.mem_filterMap.mp demanded
  rw [CompiledBinding.filterFields_of_fragment? fragmentOf, List.flatMap_eq_nil_iff]
  intro condition made
  obtain ⟨side, -, rfl⟩ := List.mem_map.mp made
  exact side.filterFields_condition filter _ _

/-- Whether every field in a tree is one of the shapes. -/
def Expr.IsWithin (tree : Expr) (entity filter : Shape) : Prop :=
  (∀ index, .field index ∈ tree.subtrees → index < entity.fields.length) ∧
    ∀ index, .filterField index ∈ tree.subtrees → index < filter.fields.length

theorem Binding.WellFormed.isWithin {binding : Binding} {entity filter : Shape}
    (wellFormed : binding.WellFormed entity filter) :
    ∀ tree ∈ binding.compile.trees, tree.IsWithin entity filter := by
  obtain ⟨entityListed, filterListed⟩ := wellFormed.isOf.lt_length
  intro tree member
  constructor
  · intro index inside
    apply entityListed
    exact (binding.mem_entityFields_iff index).mpr (Or.inl ⟨tree, member, inside⟩)
  · intro index inside
    apply filterListed
    exact (binding.mem_filterFields_iff index).mpr ⟨tree, member, inside⟩

/-- The tree for a filter record speaks of fields of the entity only. -/
theorem Registration.IsWellFormed.field_lt_length {registration : Registration}
    (wellFormed : registration.IsWellFormed) {filter : Record} {tree : Expr}
    (found : registration.compile.expr filter = .ok tree) :
    (∀ index, .field index ∈ tree.subtrees → index < registration.entity.fields.length) ∧
      ∀ index, .filterField index ∉ tree.subtrees := by
  constructor
  · intro index inside
    obtain ⟨binding, member, -, listed⟩ := CompiledFilter.mem_entityFields_of_expr found
      ((tree.mem_entityFields_iff index).mpr inside)
    exact (wellFormed binding member).isOf.lt_length.1 index listed
  · exact Expr.filterField_not_mem_subtrees (CompiledFilter.filterFields_of_expr found)

/-- Every binding that a builder registers is well formed, whichever way it was made. It speaks of
fields of its two shapes, each under its own name, at its own position and with its own type, and
lists no position that is not one of a field. Unless it is raw, its operator may relate the types of
its properties, with the conversions that it holds. If it has a rule about null, one of its entity
operands can be null. So no compiled tree, before or after the values of a filter record are put in,
speaks of a field that does not exist. -/
theorem registered_bindings_are_well_formed (settings : Settings) (attempts : List Attempt)
    {registration : Registration}
    (registered : registration ∈ ((Builder.withSettings settings).run attempts).registrations) :
    (∀ binding ∈ registration.bindings,
      binding.WellFormed registration.entity registration.filter ∧
      (∀ index ∈ binding.entityFields, index < registration.entity.fields.length) ∧
      (∀ index ∈ binding.filterFields, index < registration.filter.fields.length) ∧
      ∀ tree ∈ binding.compile.trees, tree.IsWithin registration.entity registration.filter) ∧
    ∀ filter tree, registration.compile.expr filter = .ok tree →
      (∀ index, .field index ∈ tree.subtrees → index < registration.entity.fields.length) ∧
      ∀ index, .filterField index ∉ tree.subtrees := by
  have empty : (Builder.withSettings settings).IsWellFormed := List.forall_mem_nil _
  have wellFormed : registration.IsWellFormed :=
    Builder.isWellFormed_run empty attempts registration registered
  constructor
  · intro binding member
    have ofBinding := wellFormed binding member
    obtain ⟨entityListed, filterListed⟩ := ofBinding.isOf.lt_length
    exact ⟨ofBinding, entityListed, filterListed, ofBinding.isWithin⟩
  · intro filter tree found
    exact wellFormed.field_lt_length found

/-- Books are asked for by a part of the name, which may be missing, and by the year. -/
def namedBooks : Attempt :=
  .configure bookShape bookFilterShape
    [.declare (.text "Name" "Name" (some .contains) none
        { includeNullIf := some fun _ => some true }),
      .declare (.raw "published since" publishedSince)]
    true

def namedBooksRegistration : Registration where
  entity := bookShape
  filter := bookFilterShape
  bindings :=
    [⟨.text ⟨"Name", 0, .string⟩ ⟨"Name", 0, .string⟩ .contains .caseSensitive,
        { includeNullIf := some fun _ => some true }⟩,
      ⟨.raw "published since" publishedSince, {}⟩]
  lazy := false

/-- The name is a string and can be null, so the rule about null is not idle. -/
theorem registered_bindings_are_well_formed_books :
    namedBooksRegistration ∈ ((Builder.withSettings {}).run [namedBooks]).registrations ∧
      (∀ binding ∈ namedBooksRegistration.bindings, binding.rules.includeNullIf.isSome = true →
        ∃ operand ∈ binding.constraint.entityOperands, operand.canBeNull = true) ∧
      ∃ tree, namedBooksRegistration.compile.expr fromTheSixties = .ok tree ∧
        (∀ index, .field index ∈ tree.subtrees → index < bookShape.fields.length) ∧
        ∀ index, .filterField index ∉ tree.subtrees := by
  have registered :
      namedBooksRegistration ∈ ((Builder.withSettings {}).run [namedBooks]).registrations :=
    List.mem_singleton.mpr rfl
  obtain ⟨wellFormed, trees⟩ := registered_bindings_are_well_formed {} [namedBooks] registered
  refine ⟨registered, fun binding member => (wellFormed binding member).1.nulls, ?_⟩
  obtain ⟨tree, found⟩ : ∃ tree,
      namedBooksRegistration.compile.expr fromTheSixties = .ok tree := ⟨_, rfl⟩
  exact ⟨tree, found, trees fromTheSixties tree found⟩

end RecordFilter
