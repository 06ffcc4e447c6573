import RecordFilter.Discovery
import RecordFilter.Proofs.Resolution

set_option autoImplicit false

/-!
What discovery finds. For every name it is the first of four declarations that resolves. The look at
the types before the string test leaves out no string test that would resolve.
-/

namespace RecordFilter

open RecordFilter.Except (bind_eq_ok_iff pure_eq_ok_iff toOption_eq_none_iff toOption_eq_some_iff)

namespace Declaration

/-- The declarations between the two properties of a name that leave everything else open, the
preferred ones first. -/
def ofName (name : String) : List Declaration :=
  [.text name name none none {}, .compare name name .equal {}, .contain name name .contains none {},
    .member name name .isIn none {}]

variable {declaration : Declaration} {entity filter : Shape} {settings : Settings}
  {binding : Binding} {name : String}

/-- A declaration by name finds a property under the name on either side, and its binding is known
by these two. -/
theorem properties_of_mem_ofName (member : declaration ∈ ofName name)
    (resolved : declaration.resolve entity filter settings = .ok binding) :
    ∃ e f, entity.property name = .ok e ∧ filter.property name = .ok f ∧
      binding.key? = some (.pair e.name f.name) := by
  simp only [ofName, List.mem_cons, List.not_mem_nil, or_false] at member
  rcases member with rfl | rfl | rfl | rfl
  · simp only [resolve, bind_eq_ok_iff, pure_eq_ok_iff] at resolved
    obtain ⟨e, foundEntity, f, foundFilter, -, -, rfl⟩ := resolved
    exact ⟨e, f, foundEntity, foundFilter, rfl⟩
  all_goals
    simp only [resolve, bind_eq_ok_iff, pure_eq_ok_iff] at resolved
    obtain ⟨e, foundEntity, f, foundFilter, -, -, plan, -, rfl⟩ := resolved
    exact ⟨e, f, foundEntity, foundFilter, rfl⟩

theorem mem_names_of_mem_ofName (member : declaration ∈ ofName name)
    (resolved : declaration.resolve entity filter settings = .ok binding) :
    name ∈ entity.names ∧ name ∈ filter.names := by
  obtain ⟨e, f, foundEntity, foundFilter, -⟩ := properties_of_mem_ofName member resolved
  exact ⟨(Shape.name_of_property foundEntity).2, (Shape.name_of_property foundFilter).2⟩

theorem key?_of_mem_ofName (member : declaration ∈ ofName name)
    (resolved : declaration.resolve entity filter settings = .ok binding) :
    binding.key? = some (.pair name name) := by
  obtain ⟨e, f, foundEntity, foundFilter, keyed⟩ := properties_of_mem_ofName member resolved
  rw [keyed, (Shape.name_of_property foundEntity).1, (Shape.name_of_property foundFilter).1]

/-- It reads the two properties of the name and nothing else. -/
theorem fields_of_mem_ofName (member : declaration ∈ ofName name)
    (resolved : declaration.resolve entity filter settings = .ok binding) :
    binding.entityFields.map entity.nameAt = [name] ∧
      binding.filterFields.map filter.nameAt = [name] :=
  Constraint.fields_of_key (isOf_of_resolve resolved) (key?_of_mem_ofName member resolved)

theorem rules_of_mem_ofName (member : declaration ∈ ofName name) : declaration.rules = {} := by
  simp only [ofName, List.mem_cons, List.not_mem_nil, or_false] at member
  rcases member with rfl | rfl | rfl | rfl <;> rfl

/-- A string test by name asks for a string of the entity, and for a string or a list of strings of
the filter, whichever operator the settings put in. -/
theorem isString_of_resolve_text {e f : Property} (foundEntity : entity.property name = .ok e)
    (foundFilter : filter.property name = .ok f)
    (resolved : (text name name none none {}).resolve entity filter settings = .ok binding) :
    (e.type.isString && (f.type.isString || f.type.isStringList)) = true := by
  simp only [resolve, foundEntity, foundFilter, bind_eq_ok_iff, pure_eq_ok_iff, Except.ok.injEq,
    exists_eq_left'] at resolved
  obtain ⟨⟨⟩, checked, -⟩ := resolved
  obtain ⟨ofEntity, ofFilter⟩ := Property.checkStrings_eq_ok_iff.mp checked
  rw [ofEntity, Bool.true_and, Bool.or_eq_true]
  split at ofFilter
  · exact Or.inr ofFilter
  · exact Or.inl ofFilter

end Declaration

section Found

variable (entity filter : Shape) (settings : Settings)

/-- Whether a declaration by name is the first one that resolves, and to this binding. -/
def IsFoundBy (name : String) (declaration : Declaration) (binding : Binding) : Prop :=
  ∃ before after, Declaration.ofName name = before ++ declaration :: after ∧
    declaration.resolve entity filter settings = .ok binding ∧
    ∀ other ∈ before, ∀ another, other.resolve entity filter settings ≠ .ok another

/-- What the first declaration by name that resolves comes to. -/
def found? (name : String) : Option Binding :=
  (Declaration.ofName name).findSome? fun declaration =>
    (declaration.resolve entity filter settings).toOption

variable {entity filter settings} {name : String} {binding : Binding}

theorem found?_eq_some_iff :
    found? entity filter settings name = some binding ↔
      ∃ declaration, IsFoundBy entity filter settings name declaration binding := by
  simp only [found?, List.findSome?_eq_some_iff, toOption_eq_some_iff, toOption_eq_none_iff,
    IsFoundBy]
  constructor
  · rintro ⟨before, declaration, after, split, resolved, others⟩
    exact ⟨declaration, before, after, split, resolved, others⟩
  · rintro ⟨declaration, before, after, split, resolved, others⟩
    exact ⟨before, declaration, after, split, resolved, others⟩

theorem found?_isSome_iff :
    (found? entity filter settings name).isSome = true ↔
      ∃ declaration ∈ Declaration.ofName name, ∃ binding,
        declaration.resolve entity filter settings = .ok binding := by
  rw [found?, List.findSome?_isSome_iff]
  simp only [Option.isSome_iff_exists, toOption_eq_some_iff]

theorem IsFoundBy.mem_ofName {declaration : Declaration}
    (found : IsFoundBy entity filter settings name declaration binding) :
    declaration ∈ Declaration.ofName name := by
  obtain ⟨before, after, split, -⟩ := found
  rw [split]
  exact List.mem_append_right before List.mem_cons_self

theorem IsFoundBy.resolve_eq {declaration : Declaration}
    (found : IsFoundBy entity filter settings name declaration binding) :
    declaration.resolve entity filter settings = .ok binding :=
  found.choose_spec.choose_spec.2.1

theorem resolve_of_isFoundBy {declarations : List Declaration} {bindings : List Binding}
    (found : List.Forall₂ (fun declaration binding => ∃ name,
        IsFoundBy entity filter settings name declaration binding) declarations bindings) :
    List.Forall₂ (fun declaration binding =>
        declaration.resolve entity filter settings = .ok binding) declarations bindings :=
  found.imp fun _ _ ⟨_, foundBy⟩ => foundBy.resolve_eq

/-- The look at the types before the string test changes nothing. -/
theorem findSome?_candidates {e f : Property} (foundEntity : entity.property name = .ok e)
    (foundFilter : filter.property name = .ok f) :
    ((candidates name (e.type.isString && (f.type.isString || f.type.isStringList))).findSome?
        fun candidate => (candidate.resolve entity filter settings).toOption) =
      found? entity filter settings name := by
  cases strings : e.type.isString && (f.type.isString || f.type.isStringList) with
  | true => rfl
  | false =>
      have refused : ((Declaration.text name name none none {}).resolve entity filter
          settings).toOption = none := by
        rw [toOption_eq_none_iff]
        intro binding resolved
        have legal := Declaration.isString_of_resolve_text foundEntity foundFilter resolved
        exact Bool.false_ne_true (strings.symm.trans legal)
      rw [found?, Declaration.ofName, List.findSome?_cons, refused]
      rfl

/-- Two fields of one name are bound by the first declaration by that name that resolves, and
skipped if there is none. -/
theorem findBinding_eq {entityField filterField : Field}
    (ofEntity : entityField ∈ entity.fields) (ofFilter : filterField ∈ filter.fields)
    (same : entityField.name = filterField.name) :
    findBinding entity filter settings entityField filterField =
      (found? entity filter settings filterField.name).elim (.skipped entityField filterField)
        .bound := by
  obtain ⟨e, foundEntity, -, entityType⟩ := Shape.property_of_mem_fields ofEntity
  obtain ⟨f, foundFilter, -, filterType⟩ := Shape.property_of_mem_fields ofFilter
  rw [same] at foundEntity
  rw [← findSome?_candidates foundEntity foundFilter, findBinding, entityType, filterType]
  generalize List.findSome? _ _ = resolved
  cases resolved <;> rfl

theorem binding?_findBinding {entityField filterField : Field}
    (ofEntity : entityField ∈ entity.fields) (ofFilter : filterField ∈ filter.fields)
    (same : entityField.name = filterField.name) :
    (findBinding entity filter settings entityField filterField).binding? =
      found? entity filter settings filterField.name := by
  rw [findBinding_eq ofEntity ofFilter same]
  cases found? entity filter settings filterField.name <;> rfl

/-- Nothing is found under a name that the entity does not have. -/
theorem found?_eq_none_of_not_mem (absent : name ∉ entity.names) :
    found? entity filter settings name = none := by
  cases found : found? entity filter settings name with
  | none => rfl
  | some binding =>
      obtain ⟨declaration, foundBy⟩ := found?_eq_some_iff.mp found
      have known := Declaration.mem_names_of_mem_ofName foundBy.mem_ofName foundBy.resolve_eq
      exact absurd known.1 absent

end Found

/-! Names that are claimed are left out. -/

section Picked

variable (entity filter : Shape) (claimedEntity claimedFilter : List String) (settings : Settings)

/-- What is found under a name that is claimed on neither side. -/
def picked? (name : String) : Option Binding :=
  if name ∈ claimedFilter ∨ name ∈ claimedEntity then none else found? entity filter settings name

/-- Discovery goes through the filter's names and picks. -/
theorem discoveredBindings_discover :
    discoveredBindings (discover entity filter claimedEntity claimedFilter settings) =
      filter.names.filterMap (picked? entity filter claimedEntity claimedFilter settings) := by
  rw [discoveredBindings, discover, List.filterMap_filterMap, Shape.names, List.filterMap_map]
  apply List.filterMap_congr
  intro filterField ofFilter
  by_cases claimed : filterField.name ∈ claimedFilter ∨ filterField.name ∈ claimedEntity
  · simp [picked?, claimed]
  · cases found : entity.field? filterField.name with
    | none =>
        have absent : filterField.name ∉ entity.names := by
          simpa [Shape.field?, Shape.names] using found
        simp [picked?, claimed, found?_eq_none_of_not_mem absent]
    | some entityField =>
        have same : entityField.name = filterField.name := by
          simpa using List.find?_some found
        have ofEntity := List.mem_of_find?_eq_some found
        simp [picked?, claimed, binding?_findBinding ofEntity ofFilter same]

variable {entity filter claimedEntity claimedFilter settings} {name : String} {binding : Binding}

theorem picked?_eq_some_iff :
    picked? entity filter claimedEntity claimedFilter settings name = some binding ↔
      name ∉ claimedFilter ∧ name ∉ claimedEntity ∧
        ∃ declaration, IsFoundBy entity filter settings name declaration binding := by
  rw [picked?, ← and_assoc, ← not_or, ← found?_eq_some_iff]
  split
  case isTrue claimed => simp [claimed]
  case isFalse unclaimed => simp [unclaimed]

theorem picked?_isSome_iff :
    (picked? entity filter claimedEntity claimedFilter settings name).isSome = true ↔
      name ∉ claimedFilter ∧ name ∉ claimedEntity ∧
        ∃ declaration ∈ Declaration.ofName name, ∃ binding,
          declaration.resolve entity filter settings = .ok binding := by
  rw [picked?, ← and_assoc, ← not_or, ← found?_isSome_iff]
  split
  case isTrue claimed => simp [claimed]
  case isFalse unclaimed => simp [unclaimed]

theorem mem_discoveredBindings_iff :
    binding ∈ discoveredBindings (discover entity filter claimedEntity claimedFilter settings) ↔
      ∃ name ∈ filter.names, name ∉ claimedFilter ∧ name ∉ claimedEntity ∧
        ∃ declaration, IsFoundBy entity filter settings name declaration binding := by
  simp only [discoveredBindings_discover, List.mem_filterMap, picked?_eq_some_iff]

end Picked

end RecordFilter
