import RecordFilter.Declaration
import RecordFilter.Proofs.Fields
import RecordFilter.Proofs.Outcomes

set_option autoImplicit false

/-!
What resolving a declaration comes to. The binding it yields speaks of fields of the two shapes
under their own names, and when it fails, the reason lies with the declaration and not with what was
declared before.
-/

namespace RecordFilter

open RecordFilter.Except (bind_eq_error_iff bind_eq_ok_iff pure_eq_ok_iff)

/-- Whether an error is about a declaration by itself. -/
def FilterError.IsOfDeclaration : FilterError → Prop
  | unknownProperty .. | unnecessaryNullInclusion _ | incompatibleOperator ..
  | incompatibleContainer .. | invalidStringBinding .. => True
  | _ => False

/-- Whether all reasons for which something fails are about a declaration by itself. -/
def FailsByDeclaration {α : Type} (result : Except FilterError α) : Prop :=
  ∀ reason, result = .error reason → reason.IsOfDeclaration

namespace FailsByDeclaration

variable {α β : Type}

theorem pure (value : α) : FailsByDeclaration (Pure.pure value) :=
  fun _ failed => nomatch failed

theorem bind {result : Except FilterError α} {next : α → Except FilterError β}
    (first : FailsByDeclaration result) (rest : ∀ value, FailsByDeclaration (next value)) :
    FailsByDeclaration (result >>= next) := by
  intro reason failed
  rcases bind_eq_error_iff.mp failed with failed | ⟨value, -, failed⟩
  · exact first reason failed
  · exact rest value reason failed

theorem mapError {ε : Type} {result : Except ε α} {describe : ε → FilterError}
    (described : ∀ reason, (describe reason).IsOfDeclaration) :
    FailsByDeclaration (result.mapError describe) := by
  intro reason failed
  cases result with
  | ok value => nomatch failed
  | error cause =>
      cases failed
      exact described cause

theorem property (shape : Shape) (name : String) : FailsByDeclaration (shape.property name) := by
  intro reason failed
  rcases shape.property_cases name with ⟨-, property, found, -⟩ | ⟨-, missing⟩
  · nomatch found.symm.trans failed
  · cases missing.symm.trans failed
    trivial

theorem checkNullInclusion (rules : Rules) (first : Property) (others : List Property) :
    FailsByDeclaration (rules.checkNullInclusion first others) := by
  intro reason failed
  unfold Rules.checkNullInclusion at failed
  split at failed
  · nomatch failed
  · cases failed
    trivial

theorem checkIndices (shape : Shape) (indices : List Nat) :
    FailsByDeclaration (shape.checkIndices indices) := by
  intro reason failed
  unfold Shape.checkIndices at failed
  split at failed
  · cases failed
    trivial
  · nomatch failed

theorem comparisonPlan (entity filter : Property) (op : CompareOp) :
    FailsByDeclaration (entity.comparisonPlan filter op) :=
  mapError fun _ => trivial

theorem containmentPlan (collection item : Property) :
    FailsByDeclaration (collection.containmentPlan item) := by
  unfold Property.containmentPlan
  split
  · intro reason failed
    cases failed
    trivial
  · exact mapError fun _ => trivial

theorem checkStrings (entity filter : Property) (op : StringOp) :
    FailsByDeclaration (entity.checkStrings filter op) :=
  mapError fun _ => trivial

/-- Resolving a declaration fails for reasons of its own only. -/
theorem resolve (declaration : Declaration) (entity filter : Shape) (settings : Settings) :
    FailsByDeclaration (declaration.resolve entity filter settings) := by
  cases declaration with
  | compare =>
      exact (property _ _).bind fun _ => (property _ _).bind fun _ =>
        (checkNullInclusion _ _ _).bind fun _ => (comparisonPlan _ _ _).bind fun _ => pure _
  | contain =>
      exact (property _ _).bind fun _ => (property _ _).bind fun _ =>
        (checkNullInclusion _ _ _).bind fun _ => (containmentPlan _ _).bind fun _ => pure _
  | member =>
      exact (property _ _).bind fun _ => (property _ _).bind fun _ =>
        (checkNullInclusion _ _ _).bind fun _ => (containmentPlan _ _).bind fun _ => pure _
  | text =>
      exact (property _ _).bind fun _ => (property _ _).bind fun _ =>
        (checkStrings _ _ _).bind fun _ => pure _
  | filterRange =>
      exact (property _ _).bind fun _ => (property _ _).bind fun _ => (property _ _).bind fun _ =>
        (checkNullInclusion _ _ _).bind fun _ => (comparisonPlan _ _ _).bind fun _ =>
          (comparisonPlan _ _ _).bind fun _ => pure _
  | entityRange =>
      exact (property _ _).bind fun _ => (property _ _).bind fun _ => (property _ _).bind fun _ =>
        (checkNullInclusion _ _ _).bind fun _ => (comparisonPlan _ _ _).bind fun _ =>
          (comparisonPlan _ _ _).bind fun _ => pure _
  | raw =>
      exact (checkIndices _ _).bind fun _ => (checkIndices _ _).bind fun _ => pure _

end FailsByDeclaration

theorem Property.checkStrings_eq_ok_iff {entity filter : Property} {op : StringOp} :
    entity.checkStrings filter op = .ok () ↔ entity.type.isString = true ∧
      (if op.isMembership then filter.type.isStringList else filter.type.isString) = true := by
  rw [checkStrings, ValueType.checkStrings, ← Bool.and_eq_true]
  cases entity.type.isString &&
      (if op.isMembership then filter.type.isStringList else filter.type.isString) <;>
    simp [Except.mapError]

theorem Shape.lt_length_of_checkIndices {shape : Shape} {indices : List Nat}
    (checked : shape.checkIndices indices = .ok ()) :
    ∀ index ∈ indices, index < shape.fields.length := by
  unfold checkIndices at checked
  split at checked
  · nomatch checked
  case h_2 absent =>
    simpa using absent

namespace Constraint

/-- Whether a constraint speaks of fields of the two shapes only, each under its own name and at its
own position; of a raw one only the positions count. -/
def IsOf (entity filter : Shape) : Constraint → Prop
  | compare e f .. | contain e f .. | member e f .. | text e f .. => e.IsOf entity ∧ f.IsOf filter
  | filterRange e min max => e.IsOf entity ∧ min.bound.IsOf filter ∧ max.bound.IsOf filter
  | entityRange f min max => f.IsOf filter ∧ min.bound.IsOf entity ∧ max.bound.IsOf entity
  | raw _ expr =>
    (∀ index ∈ expr.entityFields, index < entity.fields.length) ∧
      ∀ index ∈ expr.filterFields, index < filter.fields.length

/-- What is known by the names of two properties reads these two and no others. -/
theorem fields_of_key {entity filter : Shape} {constraint : Constraint} {left right : String}
    (isOf : constraint.IsOf entity filter) (keyed : constraint.key? = some (.pair left right)) :
    constraint.entityFields.map entity.nameAt = [left] ∧
      constraint.filterFields.map filter.nameAt = [right] := by
  cases constraint with
  | compare e f | contain e f | member e f | text e f =>
      cases keyed
      exact ⟨congrArg (fun name => [name]) isOf.1.nameAt,
        congrArg (fun name => [name]) isOf.2.nameAt⟩
  | filterRange | entityRange => nomatch keyed
  | raw => nomatch keyed

end Constraint

namespace Declaration

variable {declaration : Declaration} {entity filter : Shape} {settings : Settings}
  {binding : Binding}

/-- Resolving a declaration yields a binding between fields of the two shapes. -/
theorem isOf_of_resolve (resolved : declaration.resolve entity filter settings = .ok binding) :
    binding.constraint.IsOf entity filter := by
  cases declaration with
  | text entityName filterName op comparison rules =>
      simp only [resolve, bind_eq_ok_iff, pure_eq_ok_iff] at resolved
      obtain ⟨e, foundEntity, f, foundFilter, -, -, rfl⟩ := resolved
      exact ⟨Shape.property_isOf foundEntity, Shape.property_isOf foundFilter⟩
  | filterRange minName entityName maxName lower upper rules =>
      simp only [resolve, bind_eq_ok_iff, pure_eq_ok_iff] at resolved
      obtain ⟨e, foundEntity, min, foundMin, max, foundMax, -, -, _, -, _, -, rfl⟩ := resolved
      exact ⟨Shape.property_isOf foundEntity, Shape.property_isOf foundMin,
        Shape.property_isOf foundMax⟩
  | entityRange minName filterName maxName lower upper rules =>
      simp only [resolve, bind_eq_ok_iff, pure_eq_ok_iff] at resolved
      obtain ⟨f, foundFilter, min, foundMin, max, foundMax, -, -, _, -, _, -, rfl⟩ := resolved
      exact ⟨Shape.property_isOf foundFilter, Shape.property_isOf foundMin,
        Shape.property_isOf foundMax⟩
  | raw label expr =>
      simp only [resolve, bind_eq_ok_iff, pure_eq_ok_iff] at resolved
      obtain ⟨⟨⟩, entityChecked, ⟨⟩, filterChecked, rfl⟩ := resolved
      exact ⟨Shape.lt_length_of_checkIndices entityChecked,
        Shape.lt_length_of_checkIndices filterChecked⟩
  | _ =>
      simp only [resolve, bind_eq_ok_iff, pure_eq_ok_iff] at resolved
      obtain ⟨e, foundEntity, f, foundFilter, -, -, plan, -, rfl⟩ := resolved
      exact ⟨Shape.property_isOf foundEntity, Shape.property_isOf foundFilter⟩

/-- The rules that a declaration gives its binding. -/
def rules : Declaration → Rules
  | compare _ _ _ rules | contain _ _ _ _ rules | member _ _ _ _ rules | text _ _ _ _ rules
  | filterRange _ _ _ _ _ rules | entityRange _ _ _ _ _ rules => rules
  | raw .. => {}

theorem rules_of_resolve (resolved : declaration.resolve entity filter settings = .ok binding) :
    binding.rules = declaration.rules := by
  cases declaration with
  | text =>
      simp only [resolve, bind_eq_ok_iff, pure_eq_ok_iff] at resolved
      obtain ⟨_, -, _, -, -, -, rfl⟩ := resolved
      rfl
  | filterRange | entityRange =>
      simp only [resolve, bind_eq_ok_iff, pure_eq_ok_iff] at resolved
      obtain ⟨_, -, _, -, _, -, -, -, _, -, _, -, rfl⟩ := resolved
      rfl
  | raw =>
      simp only [resolve, bind_eq_ok_iff, pure_eq_ok_iff] at resolved
      obtain ⟨-, -, -, -, rfl⟩ := resolved
      rfl
  | _ =>
      simp only [resolve, bind_eq_ok_iff, pure_eq_ok_iff] at resolved
      obtain ⟨_, -, _, -, -, -, _, -, rfl⟩ := resolved
      rfl

end Declaration

end RecordFilter
