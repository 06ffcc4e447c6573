import RecordFilter.Discovery
import RecordFilter.Proofs.Positions
import RecordFilter.Proofs.Records
import RecordFilter.Proofs.Resolution

set_option autoImplicit false

/-!
Shapes with the same fields in another order. Every field of the one has a position in the other, at
which records of the same values by name hold the same value. For the one pair of shapes a
declaration by name fails with the same error as for the other, or resolves to the image of what it
resolves to for the other; and discovery, which goes through the names in another order, finds the
images of what it finds for the other.
-/

namespace RecordFilter

open RecordFilter.Except (bind_eq_map map_bind_eq_map)

namespace Shape

variable {shape other : Shape} {name : String}

/-- Whether a shape has the name of another one and its fields, in any order. -/
structure Reordering (shape other : Shape) : Prop where
  named : other.name = shape.name
  fields : other.fields.Perm shape.fields

/-- The position in another shape of the field that stands at a position. -/
def positionIn (shape other : Shape) (index : Nat) : Nat :=
  (shape.fields[index]?).elim index fun field => (other.index? field.name).getD index

namespace Reordering

variable (reordering : shape.Reordering other)

include reordering

theorem names_perm : other.names.Perm shape.names := reordering.fields.map Field.name

/-- The same field stands there. -/
theorem getElem?_positionIn (index : Nat) :
    other.fields[shape.positionIn other index]? = shape.fields[index]? := by
  rw [positionIn]
  cases stands : shape.fields[index]? with
  | none =>
      rw [List.getElem?_eq_none_iff] at stands
      rw [Option.elim_none, List.getElem?_eq_none_iff, reordering.fields.length_eq]
      exact stands
  | some field =>
      have member : field ∈ other.fields :=
        reordering.fields.mem_iff.mpr (List.mem_of_getElem? stands)
      obtain ⟨position, standsThere⟩ := List.mem_iff_getElem?.mp member
      have found := index?_of_property (property_of_getElem? standsThere)
      rw [Option.elim_some, found, Option.getD_some, standsThere]

theorem nameAt_positionIn (index : Nat) :
    other.nameAt (shape.positionIn other index) = shape.nameAt index := by
  rw [nameAt, nameAt, reordering.getElem?_positionIn]

theorem map_nameAt (indices : List Nat) :
    (indices.map (shape.positionIn other)).map other.nameAt = indices.map shape.nameAt := by
  rw [List.map_map]
  exact List.map_congr_left fun index _ => reordering.nameAt_positionIn index

/-- A property is found under its name at its new position, or is missing in both shapes. -/
theorem property_eq (name : String) :
    other.property name = (shape.property name).map (·.moved (shape.positionIn other)) := by
  rcases shape.property_cases name with ⟨-, property, found, rfl⟩ | ⟨absent, missing⟩
  · have stands : other.fields[shape.positionIn other property.index]? =
        some ⟨property.name, property.type⟩ := by
      rw [reordering.getElem?_positionIn]
      exact property_isOf found
    rw [found, property_of_getElem? stands]
    rfl
  · rcases other.property_cases name with ⟨known, -⟩ | ⟨-, missingThere⟩
    · exact absurd (reordering.names_perm.mem_iff.mp known) absent
    · rw [missing, missingThere, reordering.named]
      rfl

theorem field?_eq (name : String) : other.field? name = shape.field? name := by
  apply Option.ext
  intro field
  rw [field?_eq_some_iff, field?_eq_some_iff, reordering.fields.mem_iff]

end Reordering

end Shape

/-! Records that hold the same values by name. -/

namespace Record

/-- Whether two records hold the same values under all names. -/
def SameByName (first second : Record) : Prop := ∀ name, first.field? name = second.field? name

variable {first second : Record}

/-- Only the names of fields matter. -/
theorem sameByName_of_names (reordering : first.shape.Reordering second.shape)
    (same : ∀ name ∈ first.shape.names, first.field? name = second.field? name) :
    first.SameByName second := by
  intro name
  by_cases known : name ∈ first.shape.names
  · exact same name known
  · have absent : name ∉ second.shape.names :=
      fun knownThere => known (reordering.names_perm.mem_iff.mp knownThere)
    rw [field?_of_not_mem known, field?_of_not_mem absent]

/-- They hold the same values at the corresponding positions. -/
theorem SameByName.isMoved (same : first.SameByName second)
    (reordering : first.shape.Reordering second.shape) :
    first.IsMoved (first.shape.positionIn second.shape) second := by
  intro index
  have corresponds := reordering.getElem?_positionIn index
  cases stands : first.shape.fields[index]? with
  | none =>
      rw [get_of_none stands, get_of_none (corresponds.trans stands)]
  | some field =>
      have here := field?_of_getElem? stands
      have there := field?_of_getElem? (corresponds.trans stands)
      rw [← same field.name, here] at there
      exact (Option.some.inj there).symm

end Record

/-! Resolving a declaration for shapes with their fields in another order. -/

/-- Whether the declaration names what it reads. Only a raw one speaks of positions. -/
def Declaration.IsByName : Declaration → Prop
  | raw .. => False
  | _ => True

/-- Where the fields of a pair of shapes stand in another pair. -/
def Shape.movesTo (entity filter otherEntity otherFilter : Shape) : Moves :=
  ⟨entity.positionIn otherEntity, filter.positionIn otherFilter⟩

/-- A declaration by name resolves to the image, or fails with the same error. -/
theorem Declaration.resolve_moved {entity filter otherEntity otherFilter : Shape}
    (entities : entity.Reordering otherEntity) (filters : filter.Reordering otherFilter)
    {declaration : Declaration} (byName : declaration.IsByName) (settings : Settings) :
    declaration.resolve otherEntity otherFilter settings =
      (declaration.resolve entity filter settings).map
        (·.moved (entity.movesTo filter otherEntity otherFilter)) := by
  cases declaration with
  | raw => exact byName.elim
  | compare | contain | member =>
      simp only [resolve, entities.property_eq, filters.property_eq]
      exact map_bind_eq_map fun e => map_bind_eq_map fun f => bind_eq_map fun _ =>
        bind_eq_map fun plan => rfl
  | text =>
      simp only [resolve, entities.property_eq, filters.property_eq]
      exact map_bind_eq_map fun e => map_bind_eq_map fun f => bind_eq_map fun _ => rfl
  | filterRange | entityRange =>
      simp only [resolve, entities.property_eq, filters.property_eq]
      exact map_bind_eq_map fun _ => map_bind_eq_map fun min => map_bind_eq_map fun max =>
        bind_eq_map fun _ => bind_eq_map fun _ => bind_eq_map fun _ => rfl

/-! Discovery for shapes with their fields in another order. -/

/-- Whether two errors are equal but for the type that makes a registration trivial: of several such
types the one of the first field is named. -/
def FilterError.SameKind (reason other : FilterError) : Prop :=
  reason = other ∨ ∃ pair type otherType, reason = .trivialRegistration pair type ∧
    other = .trivialRegistration pair otherType

/-- Two ends that are both errors, of the same kind, or both values, which are related. -/
inductive EndAlike {α β : Type} (related : α → β → Prop) :
    Except FilterError α → Except FilterError β → Prop where
  | error {reason other : FilterError} (same : reason.SameKind other) :
      EndAlike related (.error reason) (.error other)
  | ok {value : α} {other : β} (alike : related value other) :
      EndAlike related (.ok value) (.ok other)

theorem EndAlike.bind {α β γ δ : Type} {related : α → β → Prop} {ending : γ → δ → Prop}
    {result : Except FilterError α} {other : Except FilterError β}
    {left : α → Except FilterError γ} {right : β → Except FilterError δ}
    (ends : EndAlike related result other)
    (goesOn : ∀ value twin, related value twin → EndAlike ending (left value) (right twin)) :
    EndAlike ending (result >>= left) (other >>= right) := by
  cases ends with
  | error same => exact .error same
  | ok alike => exact goesOn _ _ alike

def Finding.moved (moves : Moves) : Finding → Finding
  | bound binding => .bound (binding.moved moves)
  | skipped entity filter => .skipped entity filter

theorem Finding.binding?_moved {moves : Moves} (finding : Finding) :
    (finding.moved moves).binding? = finding.binding?.map (·.moved moves) := by
  cases finding <;> rfl

theorem Finding.unusable?_moved {moves : Moves} (finding : Finding) :
    (finding.moved moves).unusable? = finding.unusable? := by
  cases finding <;> rfl

theorem Declaration.isByName_of_mem_candidates {name : String} {strings : Bool}
    {declaration : Declaration} (member : declaration ∈ candidates name strings) :
    declaration.IsByName := by
  cases strings with
  | false =>
      simp only [candidates, Bool.false_eq_true, if_false, List.nil_append, List.mem_cons,
        List.not_mem_nil, or_false] at member
      rcases member with rfl | rfl | rfl <;> trivial
  | true =>
      simp only [candidates, if_true, List.singleton_append, List.mem_cons, List.not_mem_nil,
        or_false] at member
      rcases member with rfl | rfl | rfl | rfl <;> trivial

section Reordered

variable {entity filter otherEntity otherFilter : Shape}
  (entities : entity.Reordering otherEntity) (filters : filter.Reordering otherFilter)
  (settings : Settings)

include entities filters

theorem findSome?_resolve_moved {declarations : List Declaration}
    (byName : ∀ declaration ∈ declarations, declaration.IsByName) :
    (declarations.findSome? fun declaration =>
        (declaration.resolve otherEntity otherFilter settings).toOption) =
      (declarations.findSome? fun declaration =>
        (declaration.resolve entity filter settings).toOption).map
          (·.moved (entity.movesTo filter otherEntity otherFilter)) := by
  induction declarations with
  | nil => rfl
  | cons declaration rest ih =>
      rw [List.forall_mem_cons] at byName
      have first := Declaration.resolve_moved entities filters byName.1 settings
      rw [List.findSome?_cons, List.findSome?_cons, first]
      cases declaration.resolve entity filter settings with
      | error reason => exact ih byName.2
      | ok binding => rfl

theorem findBinding_moved (entityField filterField : Field) :
    findBinding otherEntity otherFilter settings entityField filterField =
      (findBinding entity filter settings entityField filterField).moved
        (entity.movesTo filter otherEntity otherFilter) := by
  rw [findBinding, findBinding, findSome?_resolve_moved entities filters settings
    fun _ => Declaration.isByName_of_mem_candidates]
  generalize List.findSome? _ _ = resolved
  cases resolved <;> rfl

/-- The findings are the images of the findings, in the order of the other filter's fields. -/
theorem discover_perm (claimedEntity claimedFilter : List String) :
    (discover otherEntity otherFilter claimedEntity claimedFilter settings).Perm
      ((discover entity filter claimedEntity claimedFilter settings).map
        (·.moved (entity.movesTo filter otherEntity otherFilter))) := by
  rw [discover, discover, List.map_filterMap]
  refine List.Perm.trans (filters.fields.filterMap _) (List.Perm.of_eq ?_)
  apply List.filterMap_congr
  intro field _
  rw [entities.field?_eq]
  split
  · rfl
  · rw [Option.map_map]
    congr 1
    funext entityField
    exact findBinding_moved entities filters settings entityField field

end Reordered

theorem discoveredBindings_perm {moves : Moves} {findings others : List Finding}
    (moved : others.Perm (findings.map (·.moved moves))) :
    (discoveredBindings others).Perm ((discoveredBindings findings).map (·.moved moves)) := by
  have images : (discoveredBindings findings).map (·.moved moves) =
      discoveredBindings (findings.map (·.moved moves)) := by
    rw [discoveredBindings, discoveredBindings, List.map_filterMap, List.filterMap_map]
    exact List.filterMap_congr fun finding _ => finding.binding?_moved.symm
  rw [images]
  exact moved.filterMap _

theorem requireBindings_alike {moves : Moves} {findings others : List Finding}
    (moved : others.Perm (findings.map (·.moved moves))) (explicit : List Binding)
    (pair : ShapePair) :
    EndAlike (fun _ _ => True) (requireBindings explicit findings pair)
      (requireBindings (explicit.map (·.moved moves)) others pair) := by
  have discovered := (discoveredBindings_perm moved).isEmpty_eq
  rw [List.isEmpty_map] at discovered
  rw [requireBindings, requireBindings, List.isEmpty_map, discovered]
  cases explicit.isEmpty && (discoveredBindings findings).isEmpty with
  | false => exact .ok trivial
  | true =>
      have unusable : (others.findSome? (·.unusable?)).isSome =
          (findings.findSome? (·.unusable?)).isSome := by
        rw [Bool.eq_iff_iff, List.findSome?_isSome_iff, List.findSome?_isSome_iff]
        simp only [moved.mem_iff, List.mem_map, exists_exists_and_eq_and, Finding.unusable?_moved]
      cases first : findings.findSome? (·.unusable?) <;>
        cases second : others.findSome? (·.unusable?) <;>
        rw [first, second] at unusable
      case none.none => exact .error (Or.inl rfl)
      case some.some type otherType => exact .error (Or.inr ⟨pair, type, otherType, rfl, rfl⟩)
      case none.some => nomatch unusable
      case some.none => nomatch unusable

end RecordFilter
