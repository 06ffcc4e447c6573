import Mathlib.Data.List.Nodup
import RecordFilter.Proofs.Substitution
import RecordFilter.Binding.Compiled

set_option autoImplicit false

/-!
Fields by name and by position. Properties are found by the names of the fields of a shape, which
are pairwise different. No field has the empty name, so the name read at a position behind the last
field is nobody's. The fields that a binding lists are the ones that stand in its compiled trees.
-/

namespace RecordFilter

theorem name_ne_empty_of_faultless {before fields : List Field}
    (faultless : firstShapeFault? before fields = none) :
    ∀ field ∈ fields, field.name ≠ "" := by
  induction fields generalizing before with
  | nil => simp
  | cons first rest ih =>
      rw [firstShapeFault?] at faultless
      split at faultless
      case isTrue => nomatch faultless
      case isFalse named =>
        split at faultless
        case isTrue => nomatch faultless
        case isFalse => exact List.forall_mem_cons.mpr ⟨named, ih faultless⟩

/-- Fields that pass the check of a shape have different names, which none of the fields before
them has. -/
theorem nodup_names_of_faultless {before fields : List Field}
    (faultless : firstShapeFault? before fields = none) :
    (fields.map (·.name)).Nodup ∧
      ∀ earlier ∈ before, ∀ field ∈ fields, earlier.name ≠ field.name := by
  induction fields generalizing before with
  | nil => simp
  | cons first rest ih =>
      rw [firstShapeFault?] at faultless
      split at faultless
      case isTrue => nomatch faultless
      case isFalse named =>
        split at faultless
        case isTrue => nomatch faultless
        case isFalse fresh =>
          obtain ⟨restDistinct, restFresh⟩ := ih faultless
          have firstFresh : ∀ earlier ∈ before, earlier.name ≠ first.name := by
            simpa using fresh
          rw [List.map_cons, List.nodup_cons, List.mem_map]
          refine ⟨⟨?_, restDistinct⟩, ?_⟩
          · rintro ⟨field, member, same⟩
            exact restFresh first (by simp) field member same.symm
          · intro earlier member
            rw [List.forall_mem_cons]
            exact ⟨firstFresh earlier member,
              fun field => restFresh earlier (List.mem_append_left _ member) field⟩

/-- Whether a property is a field of the shape, under its own name and at its own position. -/
def Property.IsOf (property : Property) (shape : Shape) : Prop :=
  shape.fields[property.index]? = some ⟨property.name, property.type⟩

namespace Shape

/-- The names of the fields, in order. -/
def names (shape : Shape) : List String := shape.fields.map (·.name)

variable {shape : Shape} {name : String}

theorem empty_not_mem_names (shape : Shape) : "" ∉ shape.names := by
  rw [names, List.mem_map]
  rintro ⟨field, member, empty⟩
  exact name_ne_empty_of_faultless shape.faultless field member empty

theorem nodup_names (shape : Shape) : shape.names.Nodup :=
  (nodup_names_of_faultless shape.faultless).1

theorem field_eq_of_name_eq {first second : Field} (left : first ∈ shape.fields)
    (right : second ∈ shape.fields) (same : first.name = second.name) : first = second :=
  List.inj_on_of_nodup_map shape.nodup_names left right same

theorem name_of_property {property : Property} (found : shape.property name = .ok property) :
    property.name = name ∧ name ∈ shape.names := by
  unfold Shape.property at found
  split at found
  case h_1 index field _ foundField =>
    cases found
    have same : field.name = name := by simpa using List.find?_some foundField
    exact ⟨same, same ▸ List.mem_map_of_mem (List.mem_of_find?_eq_some foundField)⟩
  case h_2 => nomatch found

theorem property_of_mem_names (known : name ∈ shape.names) :
    ∃ property, shape.property name = .ok property := by
  obtain ⟨field, member, rfl⟩ := List.mem_map.mp known
  have index : (shape.index? field.name).isSome := by
    rw [index?, List.findIdx?_isSome, List.any_eq_true]
    exact ⟨field, member, beq_self_eq_true _⟩
  have field : (shape.field? field.name).isSome := by
    rw [field?, List.find?_isSome]
    exact ⟨field, member, beq_self_eq_true _⟩
  obtain ⟨position, foundIndex⟩ := Option.isSome_iff_exists.mp index
  obtain ⟨other, foundField⟩ := Option.isSome_iff_exists.mp field
  exact ⟨_, by rw [Shape.property, foundIndex, foundField]⟩

/-- The names of the fields are the names under which a property is found. -/
theorem property_cases (shape : Shape) (name : String) :
    (name ∈ shape.names ∧ ∃ property, shape.property name = .ok property ∧ property.name = name) ∨
      (name ∉ shape.names ∧ shape.property name = .error (.unknownProperty shape.name name)) := by
  by_cases known : name ∈ shape.names
  · obtain ⟨property, found⟩ := property_of_mem_names known
    exact Or.inl ⟨known, property, found, (name_of_property found).1⟩
  · refine Or.inr ⟨known, ?_⟩
    unfold Shape.property
    split
    case h_1 index field foundIndex foundField =>
      have found : shape.property name = .ok ⟨field.name, index, field.type⟩ := by
        rw [Shape.property, foundIndex, foundField]
      exact absurd (name_of_property found).2 known
    case h_2 => rfl

theorem property_isOf {property : Property} (found : shape.property name = .ok property) :
    property.IsOf shape := by
  unfold Shape.property at found
  split at found
  case h_1 index field foundIndex foundField =>
    cases found
    rw [field?, List.find?_eq_bind_findIdx?_getElem?, ← index?, foundIndex] at foundField
    exact foundField
  case h_2 => nomatch found

theorem property_of_mem_fields {field : Field} (member : field ∈ shape.fields) :
    ∃ property, shape.property field.name = .ok property ∧ property.name = field.name ∧
      property.type = field.type := by
  obtain ⟨property, found⟩ := property_of_mem_names (List.mem_map_of_mem (f := Field.name) member)
  have same := (name_of_property found).1
  have isField : ⟨property.name, property.type⟩ ∈ shape.fields :=
    List.mem_of_getElem? (property_isOf found)
  have equal := field_eq_of_name_eq isField member same
  exact ⟨property, found, same, congrArg Field.type equal⟩

/-- Only fields have the names that are not empty. -/
theorem nameAt_eq_iff (named : name ≠ "") (index : Nat) :
    shape.nameAt index = name ↔ ∃ field, shape.fields[index]? = some field ∧ field.name = name := by
  rw [nameAt]
  cases shape.fields[index]? with
  | none => simp [named.symm]
  | some field => simp

end Shape

theorem Property.IsOf.nameAt {property : Property} {shape : Shape} (isOf : property.IsOf shape) :
    shape.nameAt property.index = property.name := by
  rw [Shape.nameAt, isOf]
  rfl

namespace Expr

variable (operand : Expr)

@[simp] theorem entityFields_convertIf (target : Option NumericType) :
    (operand.convertIf target).entityFields = operand.entityFields := by
  cases target <;> rfl

@[simp] theorem entityFields_negatedIf (negated : Bool) :
    (operand.negatedIf negated).entityFields = operand.entityFields := by
  cases negated <;> rfl

@[simp] theorem entityFields_lookup (item : Expr) (comparison : Option StringComparison) :
    (operand.lookup item comparison).entityFields = operand.entityFields ++ item.entityFields := by
  cases comparison <;> rfl

@[simp] theorem filterFields_convertIf (target : Option NumericType) :
    (operand.convertIf target).filterFields = operand.filterFields := by
  cases target <;> rfl

@[simp] theorem filterFields_negatedIf (negated : Bool) :
    (operand.negatedIf negated).filterFields = operand.filterFields := by
  cases negated <;> rfl

@[simp] theorem filterFields_lookup (item : Expr) (comparison : Option StringComparison) :
    (operand.lookup item comparison).filterFields = operand.filterFields ++ item.filterFields := by
  cases comparison <;> rfl

end Expr

/-- The trees of a compiled binding, straight and reversed. -/
def CompiledBinding.trees (binding : CompiledBinding) : List Expr :=
  binding.sides.flatMap fun side => [side.normal, side.inverse]

namespace Binding

/-- Whether a field of the filter with this name stands anywhere in the compiled binding. -/
def Reads (binding : Binding) (filterShape : Shape) (name : String) : Prop :=
  ∃ tree ∈ binding.compile.trees, ∃ index field, .filterField index ∈ tree.subtrees ∧
    filterShape.fields[index]? = some field ∧ field.name = name

/-- Whether a field of the entity with this name stands anywhere in the compiled binding, or is
looked at by a decision about null. -/
def ReadsEntity (binding : Binding) (entityShape : Shape) (name : String) : Prop :=
  ∃ index field, ((∃ tree ∈ binding.compile.trees, .field index ∈ tree.subtrees) ∨
      ∃ side ∈ binding.compile.sides, side.nullOperand = some index) ∧
    entityShape.fields[index]? = some field ∧ field.name = name

/-- The listed entity fields are the ones that stand in the compiled trees. A decision about null
looks at no other. -/
theorem mem_entityFields_iff (binding : Binding) (index : Nat) :
    index ∈ binding.entityFields ↔
      (∃ tree ∈ binding.compile.trees, .field index ∈ tree.subtrees) ∨
        ∃ side ∈ binding.compile.sides, side.nullOperand = some index := by
  have nullable (property : Property) :
      property.nullableIndex = some index → index = property.index := by
    unfold Property.nullableIndex
    split <;> simp [eq_comm]
  simp only [← Expr.mem_entityFields_iff]
  obtain ⟨constraint, rules⟩ := binding
  cases constraint with
  | text entity property op comparison =>
      cases member : op.isMembership <;>
        simpa [entityFields, Constraint.entityFields, compile, CompiledBinding.trees,
          Constraint.sides, Side.demanding, member, Expr.entityFields] using nullable entity
  | compare entity | contain entity | member entity | filterRange entity =>
      simpa [entityFields, Constraint.entityFields, compile, CompiledBinding.trees,
        Constraint.sides, Side.comparing, Side.demanding, Side.ofFilterEnd, Expr.entityFields]
        using nullable entity
  | entityRange filter min max =>
      have either : min.bound.nullableIndex = some index ∨ max.bound.nullableIndex = some index →
          index = min.bound.index ∨ index = max.bound.index :=
        Or.imp (nullable min.bound) (nullable max.bound)
      simpa [entityFields, Constraint.entityFields, compile, CompiledBinding.trees,
        Constraint.sides, Side.comparing, Side.ofEntityEnd, Expr.entityFields]
        using either
  | raw label expr =>
      simp [entityFields, Constraint.entityFields, compile, CompiledBinding.trees,
        Constraint.sides, Side.demanding]

theorem mem_filterFields_iff (binding : Binding) (index : Nat) :
    index ∈ binding.filterFields ↔
      ∃ tree ∈ binding.compile.trees, .filterField index ∈ tree.subtrees := by
  simp only [← Expr.mem_filterFields_iff]
  obtain ⟨constraint, rules⟩ := binding
  cases constraint with
  | text entity property op comparison =>
      -- A membership test has the filter's field on its left, the other tests on their right.
      cases member : op.isMembership <;>
        simp [filterFields, Constraint.filterFields, compile, CompiledBinding.trees,
          Constraint.sides, Side.demanding, member, Expr.filterFields]
  | _ =>
      simp [filterFields, Constraint.filterFields, compile, CompiledBinding.trees, Constraint.sides,
        Side.comparing, Side.demanding, Side.ofFilterEnd, Side.ofEntityEnd, Expr.filterFields]

/-- For the name of a field, reading it is listing a position at which the name is read. -/
theorem readsEntity_iff_nameAt (binding : Binding) {entityShape : Shape} {name : String}
    (named : name ≠ "") :
    binding.ReadsEntity entityShape name ↔
      ∃ index ∈ binding.entityFields, entityShape.nameAt index = name := by
  simp only [ReadsEntity, mem_entityFields_iff, Shape.nameAt_eq_iff named]
  constructor
  · rintro ⟨index, field, listed, found⟩
    exact ⟨index, listed, field, found⟩
  · rintro ⟨index, listed, field, found⟩
    exact ⟨index, field, listed, found⟩

theorem reads_iff_nameAt (binding : Binding) {filterShape : Shape} {name : String}
    (named : name ≠ "") :
    binding.Reads filterShape name ↔
      ∃ index ∈ binding.filterFields, filterShape.nameAt index = name := by
  simp only [Reads, mem_filterFields_iff, Shape.nameAt_eq_iff named]
  constructor
  · rintro ⟨tree, member, index, field, inside, found⟩
    exact ⟨index, ⟨tree, member, inside⟩, field, found⟩
  · rintro ⟨index, ⟨tree, member, inside⟩, field, found⟩
    exact ⟨tree, member, index, field, inside, found⟩

end Binding

end RecordFilter
