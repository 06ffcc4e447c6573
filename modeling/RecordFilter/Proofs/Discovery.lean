import Mathlib.Data.List.Perm.Basic
import RecordFilter.Proofs.Atomicity

set_option autoImplicit false

/-!
Discovery binds what it can and keeps off everything else. For each name that is claimed on neither
side it finds the first declaration by that name that resolves. What it finds reads no property that
is read or excluded elsewhere, and making the found declarations by hand leads to the same
registration.
-/

namespace RecordFilter

namespace Binding

variable {binding : Binding} {shape : Shape} {name : String}

theorem mem_nameAt_of_readsEntity (reads : binding.ReadsEntity shape name) :
    name ∈ binding.entityFields.map shape.nameAt := by
  have named : name ≠ "" := by
    obtain ⟨index, field, -, found, rfl⟩ := reads
    exact name_ne_empty_of_faultless shape.faultless field (List.mem_of_getElem? found)
  exact List.mem_map.mpr ((binding.readsEntity_iff_nameAt named).mp reads)

theorem mem_nameAt_of_reads (reads : binding.Reads shape name) :
    name ∈ binding.filterFields.map shape.nameAt := by
  have named : name ≠ "" := by
    obtain ⟨tree, -, index, field, -, found, rfl⟩ := reads
    exact name_ne_empty_of_faultless shape.faultless field (List.mem_of_getElem? found)
  exact List.mem_map.mpr ((binding.reads_iff_nameAt named).mp reads)

end Binding

namespace Configuration

variable {config : Configuration} {name : String}

theorem mem_claimedEntity_iff :
    name ∈ config.claimedEntity ↔ name ∈ config.entityExclusions ∨
      ∃ binding ∈ config.bindings, name ∈ binding.entityFields.map config.entity.nameAt := by
  rw [claimedEntity, List.mem_append, List.mem_flatMap]

theorem mem_claimedFilter_iff :
    name ∈ config.claimedFilter ↔ (name, .always) ∈ config.filterExclusions ∨
      ∃ binding ∈ config.bindings, name ∈ binding.filterFields.map config.filter.nameAt := by
  have excluded : name ∈ (config.filterExclusions.filter (·.2.isAlways)).map (·.1) ↔
      (name, .always) ∈ config.filterExclusions := by
    rw [List.mem_map]
    constructor
    · rintro ⟨⟨other, exclusion⟩, listed, rfl⟩
      obtain ⟨entered, isAlways⟩ := List.mem_filter.mp listed
      cases exclusion with
      | always => exact entered
      | when condition => nomatch isAlways
    · intro entered
      exact ⟨(name, .always), List.mem_filter.mpr ⟨entered, rfl⟩, rfl⟩
  rw [claimedFilter, List.mem_append, List.mem_flatMap, excluded]

/-- A discovered binding reads one name on both sides, which nothing claims. -/
theorem name_of_mem_discovered {binding : Binding}
    (discovered : binding ∈ discoveredBindings config.findings) :
    ∃ name, name ∉ config.claimedFilter ∧ name ∉ config.claimedEntity ∧
      binding.entityFields.map config.entity.nameAt = [name] ∧
      binding.filterFields.map config.filter.nameAt = [name] := by
  obtain ⟨name, -, offFilter, offEntity, declaration, foundBy⟩ :=
    mem_discoveredBindings_iff.mp discovered
  have reads := Declaration.fields_of_mem_ofName foundBy.mem_ofName foundBy.resolve_eq
  exact ⟨name, offFilter, offEntity, reads⟩

theorem disjoint_of_mem_discovered {binding : Binding}
    (discovered : binding ∈ discoveredBindings config.findings) (name : String) :
    (binding.ReadsEntity config.entity name → name ∉ config.entityExclusions ∧
        ∀ declared ∈ config.bindings, ¬ declared.ReadsEntity config.entity name) ∧
      (binding.Reads config.filter name → (name, .always) ∉ config.filterExclusions ∧
        ∀ declared ∈ config.bindings, ¬ declared.Reads config.filter name) := by
  obtain ⟨found, offFilter, offEntity, ofEntity, ofFilter⟩ := name_of_mem_discovered discovered
  rw [mem_claimedEntity_iff, not_or] at offEntity
  rw [mem_claimedFilter_iff, not_or] at offFilter
  constructor
  · intro reads
    have listed := Binding.mem_nameAt_of_readsEntity reads
    rw [ofEntity, List.mem_singleton] at listed
    subst listed
    refine ⟨offEntity.1, fun declared member readsToo => offEntity.2 ⟨declared, member, ?_⟩⟩
    exact Binding.mem_nameAt_of_readsEntity readsToo
  · intro reads
    have listed := Binding.mem_nameAt_of_reads reads
    rw [ofFilter, List.mem_singleton] at listed
    subst listed
    refine ⟨offFilter.1, fun declared member readsToo => offFilter.2 ⟨declared, member, ?_⟩⟩
    exact Binding.mem_nameAt_of_reads readsToo

/-! Declaring what is discovered. -/

/-- The configuration with more bindings and their keys. -/
def withBindings (config : Configuration) (bindings : List Binding) : Configuration :=
  { config with
    bindings := config.bindings ++ bindings
    keys := config.keys ++ bindings.filterMap (·.key?) }

theorem reaches_withBindings {entity filter : Shape} {settings : Settings}
    {declarations : List Declaration} {bindings : List Binding}
    (resolved : List.Forall₂
      (fun declaration binding => declaration.resolve entity filter settings = .ok binding)
      declarations bindings)
    (ofEntity : config.entity = entity) (ofFilter : config.filter = filter)
    (under : config.settings = settings)
    (distinct : (config.keys ++ bindings.filterMap (·.key?)).Nodup) :
    config.Reaches (declarations.map .declare) (config.withBindings bindings) := by
  induction resolved generalizing config with
  | nil =>
      have same : config.withBindings [] = config := by simp [withBindings]
      rw [same]
      exact .refl config
  | @cons declaration binding declarations bindings first rest ih =>
      have split : (binding :: bindings).filterMap (·.key?) =
          binding.key?.toList ++ bindings.filterMap (·.key?) := by
        cases keyed : binding.key? <;> simp [keyed]
      rw [split, ← List.append_assoc] at distinct
      have fresh : ∀ key ∈ binding.key?, key ∉ config.keys := by
        intro key keyed taken
        have apart := List.disjoint_of_nodup_append (List.Nodup.of_append_left distinct)
        exact apart taken (Option.mem_toList.mpr keyed)
      have accepted := Accepts.declare (ofEntity ▸ ofFilter ▸ under ▸ first) fresh
      have last := @ih { config with
        bindings := config.bindings ++ [binding]
        keys := config.keys ++ binding.key?.toList } ofEntity ofFilter under distinct
      have same : config.withBindings (binding :: bindings) =
          withBindings { config with
            bindings := config.bindings ++ [binding]
            keys := config.keys ++ binding.key?.toList } bindings := by
        simp [withBindings, split]
      rw [same]
      exact .step accepted last

theorem mem_claimedEntity_withBindings {bindings : List Binding} :
    name ∈ (config.withBindings bindings).claimedEntity ↔ name ∈ config.claimedEntity ∨
      ∃ binding ∈ bindings, name ∈ binding.entityFields.map config.entity.nameAt := by
  simp only [mem_claimedEntity_iff, withBindings, List.mem_append, or_and_right, exists_or,
    or_assoc]

theorem mem_claimedFilter_withBindings {bindings : List Binding} :
    name ∈ (config.withBindings bindings).claimedFilter ↔ name ∈ config.claimedFilter ∨
      ∃ binding ∈ bindings, name ∈ binding.filterFields.map config.filter.nameAt := by
  simp only [mem_claimedFilter_iff, withBindings, List.mem_append, or_and_right, exists_or,
    or_assoc]

/-- Once they are declared, in any order, there is nothing left to discover. -/
theorem discoveredBindings_withBindings {bindings : List Binding}
    (found : bindings.Perm (discoveredBindings config.findings)) :
    discoveredBindings (config.withBindings bindings).findings = [] := by
  rw [List.eq_nil_iff_forall_not_mem]
  intro binding again
  obtain ⟨name, known, offFilter, offEntity, declaration, foundBy⟩ :=
    mem_discoveredBindings_iff.mp again
  rw [mem_claimedEntity_withBindings, not_or] at offEntity
  rw [mem_claimedFilter_withBindings, not_or] at offFilter
  -- What is found now was found before, and so it is among the bindings that claim its name.
  have before : binding ∈ discoveredBindings config.findings :=
    mem_discoveredBindings_iff.mpr
      ⟨name, known, offFilter.1, offEntity.1, declaration, foundBy⟩
  have reads : binding.entityFields.map config.entity.nameAt = [name] :=
    (Declaration.fields_of_mem_ofName foundBy.mem_ofName foundBy.resolve_eq).1
  apply offEntity.2
  refine ⟨binding, found.mem_iff.mpr before, ?_⟩
  rw [reads]
  exact List.mem_singleton_self name

theorem requireBindings_eq_ok_iff {explicit : List Binding} {findings : List Finding}
    {pair : ShapePair} :
    requireBindings explicit findings pair = .ok () ↔
      explicit ++ discoveredBindings findings ≠ [] := by
  rw [requireBindings]
  split
  case isTrue none =>
    have empty : explicit ++ discoveredBindings findings = [] := by simpa using none
    split <;> simp [empty]
  case isFalse some =>
    have full : explicit ++ discoveredBindings findings ≠ [] := by simpa using some
    simp [full]

theorem finish_withBindings {bindings : List Binding} {registration : Registration}
    (found : bindings.Perm (discoveredBindings config.findings))
    (finished : config.finish = .ok registration) :
    (config.withBindings bindings).finish = .ok
      { registration with
        bindings := (config.bindings ++ bindings).map config.withExclusions } := by
  obtain ⟨usable, same⟩ := finish_eq_ok_iff.mp finished
  have nothing := discoveredBindings_withBindings found
  have declared : (config.withBindings bindings).allBindings = config.bindings ++ bindings := by
    rw [allBindings, nothing, List.append_nil]
    rfl
  refine finish_eq_ok_iff.mpr ⟨?_, ?_⟩
  · rw [requireBindings_eq_ok_iff] at usable ⊢
    rw [nothing, List.append_nil]
    intro empty
    have short : config.bindings = [] ∧ bindings = [] := List.append_eq_nil_iff.mp empty
    rw [short.2] at found
    exact usable (by rw [short.1, List.nil_perm.mp found, List.nil_append])
  · rw [declared, ← same]
    rfl

/-- Declaring what is discovered, in any order, leaves nothing to discover and only reorders the
registration. -/
theorem Coherent.finish_run_declare (coherent : config.Coherent) {declarations : List Declaration}
    {bindings : List Binding} {registration : Registration}
    (resolved : List.Forall₂ (fun declaration binding =>
      declaration.resolve config.entity config.filter config.settings = .ok binding)
      declarations bindings)
    (found : bindings.Perm (discoveredBindings config.findings))
    (finished : config.finish = .ok registration) :
    discoveredBindings (config.run (declarations.map .declare)).findings = [] ∧
      (config.run (declarations.map .declare)).finish = .ok
        { registration with
          bindings := (config.bindings ++ bindings).map config.withExclusions } := by
  have distinct : (config.keys ++ bindings.filterMap (·.key?)).Nodup := by
    have apart := coherent.nodup_keys_allBindings
    rw [allBindings, List.filterMap_append, ← coherent.keys_eq] at apart
    exact ((found.filterMap (·.key?)).append_left config.keys).nodup_iff.mpr apart
  have reached := reaches_withBindings resolved rfl rfl rfl distinct
  rw [reached.run_eq]
  exact ⟨discoveredBindings_withBindings found, finish_withBindings found finished⟩

theorem exists_declarations (config : Configuration) :
    ∃ declarations, List.Forall₂ (fun declaration binding => ∃ name,
        IsFoundBy config.entity config.filter config.settings name declaration binding)
      declarations (discoveredBindings config.findings) := by
  apply List.exists_forall₂
  intro binding discovered
  obtain ⟨name, -, -, -, declaration, foundBy⟩ := mem_discoveredBindings_iff.mp discovered
  exact ⟨declaration, name, foundBy⟩

end Configuration

theorem Registration.predicate_congr (first second : Registration) {filter : Record}
    (sameEntity : first.entity = second.entity) (sameFilter : first.filter = second.filter)
    (sameBindings : first.bindings.Perm second.bindings)
    (ofFilter : filter.shape.name = second.filter.name) :
    ∃ left right, first.compile.predicate filter = .ok left ∧
      second.compile.predicate filter = .ok right ∧
      ∀ entity, entity.shape.name = second.entity.name → left.test entity = right.test entity := by
  obtain ⟨left, foundLeft, testsLeft⟩ := first.predicate_compile (sameFilter ▸ ofFilter)
  obtain ⟨right, foundRight, testsRight⟩ := second.predicate_compile ofFilter
  refine ⟨left, right, foundLeft, foundRight, fun entity ofEntity => ?_⟩
  rw [testsLeft entity (sameEntity ▸ ofEntity), testsRight entity ofEntity]
  exact sameBindings.all_eq

/-- Discovery goes through a part of the filter's names, those under which something is found. -/
theorem names_of_discover (entity filter : Shape) (settings : Settings)
    (claimedEntity claimedFilter : List String) :
    ∃ names, names.Sublist filter.names ∧ names.Nodup ∧
      (∀ name, name ∈ names ↔ name ∈ filter.names ∧ name ∉ claimedFilter ∧
        name ∈ entity.names ∧ name ∉ claimedEntity ∧
        ∃ declaration ∈ Declaration.ofName name, ∃ binding,
          declaration.resolve entity filter settings = .ok binding) ∧
      List.Forall₂ (fun name binding =>
          ∃ declaration, IsFoundBy entity filter settings name declaration binding)
        names (discoveredBindings
          (discover entity filter claimedEntity claimedFilter settings)) := by
  refine ⟨filter.names.filter fun name =>
      (picked? entity filter claimedEntity claimedFilter settings name).isSome,
    List.filter_sublist, filter.nodup_names.filter _, ?_, ?_⟩
  · intro name
    rw [List.mem_filter, picked?_isSome_iff]
    constructor
    · rintro ⟨ofFilter, offFilter, offEntity, declaration, byName, binding, resolved⟩
      have ofEntity := (Declaration.mem_names_of_mem_ofName byName resolved).1
      exact ⟨ofFilter, offFilter, ofEntity, offEntity, declaration, byName, binding, resolved⟩
    · rintro ⟨ofFilter, offFilter, -, offEntity, resolves⟩
      exact ⟨ofFilter, offFilter, offEntity, resolves⟩
  · rw [discoveredBindings_discover]
    refine (List.forall₂_filterMap _ filter.names).imp fun name binding picked => ?_
    exact (picked?_eq_some_iff.mp picked).2.2

/-- Discovery yields, in the order of the filter's fields, one binding for each name that is claimed
on neither side and under which some declaration by name resolves, and that is the binding of the
first such declaration. So what it adds to a registration reads nothing that a declared binding
reads or that is kept out always. A configuration on which the found declarations are made, in
whatever order, has nothing left to discover and finishes with the same predicates, or with the very
same registration where the order is that of discovery. -/
theorem discovery_is_complete_and_disjoint (entityShape filterShape : Shape) :
    (∀ settings claimedEntity claimedFilter,
      ∃ names, names.Sublist filterShape.names ∧ names.Nodup ∧
        (∀ name, name ∈ names ↔ name ∈ filterShape.names ∧ name ∉ claimedFilter ∧
          name ∈ entityShape.names ∧ name ∉ claimedEntity ∧
          ∃ declaration ∈ Declaration.ofName name, ∃ binding,
            declaration.resolve entityShape filterShape settings = .ok binding) ∧
        List.Forall₂ (fun name binding =>
            ∃ declaration, IsFoundBy entityShape filterShape settings name declaration binding)
          names (discoveredBindings
            (discover entityShape filterShape claimedEntity claimedFilter settings))) ∧
    ∀ (builder : Builder) (start config : Configuration) (calls : List Call)
      (registration : Registration), builder.configure entityShape filterShape = .ok start →
      start.run calls = config → config.finish = .ok registration →
      registration.bindings =
          (config.bindings ++ discoveredBindings config.findings).map config.withExclusions ∧
      (∀ discovered ∈ discoveredBindings config.findings, ∀ name,
        (discovered.ReadsEntity entityShape name → name ∉ config.entityExclusions ∧
          ∀ declared ∈ config.bindings, ¬ declared.ReadsEntity entityShape name) ∧
        (discovered.Reads filterShape name → (name, .always) ∉ config.filterExclusions ∧
          ∀ declared ∈ config.bindings, ¬ declared.Reads filterShape name)) ∧
      ∃ declarations : List Declaration,
        List.Forall₂ (fun declaration binding => ∃ name,
            IsFoundBy entityShape filterShape config.settings name declaration binding)
          declarations (discoveredBindings config.findings) ∧
        (config.run (declarations.map .declare)).finish = .ok registration ∧
        ∀ order : List Declaration, order.Perm declarations →
          discoveredBindings (config.run (order.map .declare)).findings = [] ∧
          ∃ explicit, (config.run (order.map .declare)).finish = .ok explicit ∧
            ∀ filter, filter.shape.name = filterShape.name →
              ∃ byHand discovered, explicit.compile.predicate filter = .ok byHand ∧
                registration.compile.predicate filter = .ok discovered ∧
                ∀ entity, entity.shape.name = entityShape.name →
                  byHand.test entity = discovered.test entity := by
  constructor
  · exact names_of_discover entityShape filterShape
  intro builder start config calls registration configured reached finished
  obtain ⟨ofEntity, ofFilter, -⟩ := Builder.run_of_configure configured calls
  have coherent := Builder.coherent_of_configure configured calls
  rw [reached] at ofEntity ofFilter coherent
  subst ofEntity ofFilter
  obtain ⟨-, same⟩ := Configuration.finish_eq_ok_iff.mp finished
  have registered : registration.bindings =
      (config.bindings ++ discoveredBindings config.findings).map config.withExclusions := by
    rw [← same]
    rfl
  have ofPair : registration.entity = config.entity ∧ registration.filter = config.filter := by
    rw [← same]
    exact ⟨rfl, rfl⟩
  obtain ⟨declarations, found⟩ := config.exists_declarations
  refine ⟨registered, fun _ discovered => Configuration.disjoint_of_mem_discovered discovered,
    declarations, found, ?_, ?_⟩
  · obtain ⟨-, explicit⟩ :=
      coherent.finish_run_declare (resolve_of_isFoundBy found) (List.Perm.refl _) finished
    rw [explicit, ← registered]
  intro order permuted
  obtain ⟨bindings, foundInOrder, reordered⟩ := List.perm_comp_forall₂ permuted found
  obtain ⟨nothing, explicit⟩ :=
    coherent.finish_run_declare (resolve_of_isFoundBy foundInOrder) reordered finished
  refine ⟨nothing, _, explicit, fun filter ofFilter => ?_⟩
  have permutedBindings : ((config.bindings ++ bindings).map config.withExclusions).Perm
      registration.bindings := by
    rw [registered]
    exact (reordered.append_left config.bindings).map config.withExclusions
  obtain ⟨byHand, discovered, foundByHand, foundDiscovered, agree⟩ :=
    Registration.predicate_congr { registration with
      bindings := (config.bindings ++ bindings).map config.withExclusions } registration rfl rfl
      permutedBindings (ofPair.2 ▸ ofFilter)
  refine ⟨byHand, discovered, foundByHand, foundDiscovered, fun entity ofEntity => ?_⟩
  exact agree entity (ofPair.1 ▸ ofEntity)

/-- The name of a book is discovered, as no declaration reads it; it could have been declared. -/
theorem discovery_is_complete_and_disjoint_name :
    ({} : Builder).configure bookShape bookFilterShape = .ok bookStart ∧
      (bookStart.run bookCalls).finish = .ok bookRegistration ∧
      nameBinding.Reads bookFilterShape "Name" ∧
      (∀ declared ∈ (bookStart.run bookCalls).bindings, ¬ declared.Reads bookFilterShape "Name") ∧
      ∃ declaration name, IsFoundBy bookShape bookFilterShape {} name declaration nameBinding ∧
        ((bookStart.run bookCalls).run [.declare declaration]).finish = .ok bookRegistration := by
  have configured : ({} : Builder).configure bookShape bookFilterShape = .ok bookStart := rfl
  have finished : (bookStart.run bookCalls).finish = .ok bookRegistration := rfl
  have discovered : discoveredBindings (bookStart.run bookCalls).findings = [nameBinding] := rfl
  have reads : nameBinding.Reads bookFilterShape "Name" :=
    (nameBinding.reads_iff_nameAt (by decide)).mpr ⟨0, by decide, rfl⟩
  obtain ⟨-, disjoint, declarations, found, byHand, -⟩ :=
    (discovery_is_complete_and_disjoint bookShape bookFilterShape).2 {} bookStart _ bookCalls
      bookRegistration configured rfl finished
  rw [discovered] at disjoint found
  have apart := (disjoint nameBinding (List.mem_singleton_self _) "Name").2 reads
  obtain ⟨declaration, rest, ⟨name, foundBy⟩, none, rfl⟩ := List.forall₂_cons_right_iff.mp found
  obtain rfl : rest = [] := List.forall₂_nil_right_iff.mp none
  exact ⟨configured, finished, reads, apart.2, declaration, name, foundBy, byHand⟩

end RecordFilter
