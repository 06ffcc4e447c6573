import RecordFilter.Proofs.Candidates
import RecordFilter.Proofs.Exclusion

set_option autoImplicit false

/-!
Configuring is atomic and free of duplicates. A call that fails leaves no trace, and an accepted
declaration adds one binding behind the others, which stay as they are. The keys are those of the
accepted bindings, each of them taken once; discovery finds bindings under other keys only, so all
bindings of a registration can be told apart.
-/

namespace RecordFilter

/-- The keys of discovered bindings are made of names, of each once. -/
theorem nodup_keys_discoveredBindings (entity filter : Shape)
    (claimedEntity claimedFilter : List String) (settings : Settings) :
    ((discoveredBindings (discover entity filter claimedEntity claimedFilter settings)).filterMap
      (·.key?)).Nodup := by
  rw [discoveredBindings_discover, List.filterMap_filterMap]
  have keyed (name : String) (key : BindingKey)
      (listed : key ∈ (picked? entity filter claimedEntity claimedFilter settings name).bind
        (·.key?)) : key = .pair name name := by
    obtain ⟨binding, picked, known⟩ := Option.bind_eq_some_iff.mp listed
    obtain ⟨-, -, declaration, foundBy⟩ := picked?_eq_some_iff.mp picked
    have byName := Declaration.key?_of_mem_ofName foundBy.mem_ofName foundBy.resolve_eq
    exact Option.some.inj (known.symm.trans byName)
  apply filter.nodup_names.filterMap
  intro name other key first second
  have same := (keyed name key first).symm.trans (keyed other key second)
  exact (BindingKey.pair.inj same).1

namespace Configuration

variable {config next last : Configuration} {call : Call} {calls : List Call}

/-- What holds of a configuration throughout: the keys are those of the bindings, each is taken
once, and the bindings speak of the two shapes. -/
structure Coherent (config : Configuration) : Prop where
  keys_eq : config.keys = config.bindings.filterMap (·.key?)
  distinct : config.keys.Nodup
  isOf : ∀ binding ∈ config.bindings, binding.constraint.IsOf config.entity config.filter

theorem coherent_new (entity filter : Shape) (settings : Settings) :
    Coherent { entity, filter, settings } := by
  constructor <;> simp

theorem Accepts.coherent (accepted : config.Accepts call next) (coherent : config.Coherent) :
    next.Coherent := by
  cases accepted with
  | @declare declaration binding resolved fresh =>
      constructor
      · rw [coherent.keys_eq, List.filterMap_append]
        cases keyed : binding.key? <;> simp [keyed]
      · have single : binding.key?.toList.Nodup := by cases binding.key? <;> simp
        apply coherent.distinct.append single
        intro key taken added
        exact fresh key (Option.mem_toList.mp added) taken
      · rw [List.forall_mem_append, List.forall_mem_singleton]
        exact ⟨coherent.isOf, Declaration.isOf_of_resolve resolved⟩
  | _ => exact ⟨coherent.keys_eq, coherent.distinct, coherent.isOf⟩

theorem Reaches.coherent (reached : config.Reaches calls last) (coherent : config.Coherent) :
    last.Coherent :=
  reached.preserves Accepts.coherent coherent

theorem coherent_run (coherent : config.Coherent) (calls : List Call) :
    (config.run calls).Coherent :=
  (config.reaches_run calls).coherent coherent

theorem Coherent.mem_keys_iff (coherent : config.Coherent) (key : BindingKey) :
    key ∈ config.keys ↔ ∃ binding ∈ config.bindings, binding.key? = some key := by
  rw [coherent.keys_eq, List.mem_filterMap]

/-! The bindings are those of the accepted declarations, in their order. -/

/-- What a declaration resolves to under the settings it meets. -/
def resolved? (config : Configuration) : Call → Option Binding
  | .declare declaration =>
    (declaration.resolve config.entity config.filter config.settings).toOption
  | _ => none

/-- What the accepted declarations of a run resolve to, in their order. -/
def acceptedBindings (config : Configuration) : List Call → List Binding
  | [] => []
  | call :: rest =>
    match (perform call).runOn config with
    | (.ok (), next) => (config.resolved? call).toList ++ next.acceptedBindings rest
    | (.error _, next) => next.acceptedBindings rest

theorem Accepts.bindings_eq (accepted : config.Accepts call next) :
    next.bindings = config.bindings ++ (config.resolved? call).toList := by
  cases accepted with
  | declare resolved =>
      rw [resolved?, resolved]
      rfl
  | excludeEntity => exact (List.append_nil _).symm
  | excludeFilter asked =>
      have other : config.resolved? call = none := by
        cases call with
        | declare => nomatch asked
        | _ => rfl
      rw [other]
      exact (List.append_nil _).symm
  | adjust asked =>
      have other : config.resolved? call = none := by
        cases call with
        | declare => nomatch asked
        | _ => rfl
      rw [other]
      exact (List.append_nil _).symm

theorem bindings_run (config : Configuration) (calls : List Call) :
    (config.run calls).bindings = config.bindings ++ config.acceptedBindings calls := by
  induction calls generalizing config with
  | nil => exact (List.append_nil _).symm
  | cons call rest ih =>
      rw [run, List.foldl_cons, ← run, acceptedBindings]
      rcases config.accepts_or_refuses call with ⟨next, accepted⟩ | ⟨reason, refused⟩
      · rw [accepted.step_eq, accepted.runOn_perform, ih next, accepted.bindings_eq,
          List.append_assoc]
      · rw [refused.step_eq, refused.runOn_perform]
        exact ih config

/-- A declaration is a duplicate exactly when it resolves and its key is taken. -/
theorem refuses_duplicateBinding_iff {pair : ShapePair} {text : String} :
    config.Refuses call (.duplicateBinding pair text) ↔
      pair = config.pair ∧ ∃ declaration binding key, call = .declare declaration ∧
        declaration.resolve config.entity config.filter config.settings = .ok binding ∧
        binding.key? = some key ∧ key ∈ config.keys ∧ text = key.text := by
  constructor
  · intro refused
    cases refused with
    | unresolved failed => exact (FailsByDeclaration.resolve _ _ _ _ _ failed).elim
    | keyTaken resolved keyed taken => exact ⟨rfl, _, _, _, rfl, resolved, keyed, taken, rfl⟩
  · rintro ⟨rfl, declaration, binding, key, rfl, resolved, keyed, taken, rfl⟩
    exact .keyTaken resolved keyed taken

/-! Finishing keeps the keys apart. -/

/-- What is discovered is known by a name that no declared binding is known by. -/
theorem Coherent.key_not_mem (coherent : config.Coherent) {binding : Binding} {key : BindingKey}
    (discovered : binding ∈ discoveredBindings config.findings) (keyed : binding.key? = some key) :
    key ∉ config.keys := by
  obtain ⟨name, -, -, unclaimed, declaration, foundBy⟩ := mem_discoveredBindings_iff.mp discovered
  have byName := Declaration.key?_of_mem_ofName foundBy.mem_ofName foundBy.resolve_eq
  obtain rfl : .pair name name = key := Option.some.inj (byName.symm.trans keyed)
  intro taken
  obtain ⟨declared, member, sameKey⟩ := (coherent.mem_keys_iff _).mp taken
  have reads := Constraint.fields_of_key (coherent.isOf declared member) sameKey
  have claimed : name ∈ declared.entityFields.map config.entity.nameAt := by
    rw [Binding.entityFields, reads.1]
    exact List.mem_singleton_self name
  exact unclaimed (List.mem_append_right _ (List.mem_flatMap.mpr ⟨declared, member, claimed⟩))

theorem Coherent.nodup_keys_allBindings (coherent : config.Coherent) :
    (config.allBindings.filterMap (·.key?)).Nodup := by
  rw [allBindings, List.filterMap_append, ← coherent.keys_eq]
  apply coherent.distinct.append (nodup_keys_discoveredBindings _ _ _ _ _)
  intro key taken discovered
  obtain ⟨binding, member, keyed⟩ := List.mem_filterMap.mp discovered
  exact coherent.key_not_mem member keyed taken

/-- The conditions attached at the end change no key. -/
theorem filterMap_key?_withExclusions (config : Configuration) (bindings : List Binding) :
    (bindings.map config.withExclusions).filterMap (·.key?) = bindings.filterMap (·.key?) := by
  rw [List.filterMap_map]
  rfl

end Configuration

namespace Builder

variable {builder : Builder} {entityShape filterShape : Shape} {start : Configuration}
  (configured : builder.configure entityShape filterShape = .ok start) (calls : List Call)

include configured

theorem coherent_of_configure : (start.run calls).Coherent := by
  rw [eq_of_configure configured]
  exact Configuration.coherent_run (Configuration.coherent_new _ _ _) calls

theorem bindings_of_configure : (start.run calls).bindings = start.acceptedBindings calls := by
  rw [Configuration.bindings_run, eq_of_configure configured, List.nil_append]

theorem pair_of_configure : (start.run calls).pair = entityShape.pairWith filterShape := by
  obtain ⟨ofEntity, ofFilter, -⟩ := run_of_configure configured calls
  rw [Configuration.pair, ofEntity, ofFilter]

end Builder

/-- Configuring is atomic and free of duplicates, whatever calls came before and whichever of them
failed. A call that fails leaves everything as it was. An accepted declaration adds one binding, and
no later call changes a binding that is there. The taken keys are those of the accepted bindings,
and a declaration is refused as a duplicate when it resolves to a binding whose key is among them.
No filter property is kept out both always and by a condition. A registration has the accepted
bindings in the order of their declarations, the discovered ones behind them, and no key twice. -/
theorem configuring_is_atomic_and_distinct {builder : Builder} {entityShape filterShape : Shape}
    {start config : Configuration} {calls : List Call}
    (configured : builder.configure entityShape filterShape = .ok start)
    (reached : start.run calls = config) :
    (∀ call reason after,
      (Configuration.perform call).runOn config = (.error reason, after) → after = config) ∧
    (∀ declaration after,
      (Configuration.perform (.declare declaration)).runOn config = (.ok (), after) →
        ∃ binding, declaration.resolve entityShape filterShape config.settings = .ok binding ∧
          after = { config with
            bindings := config.bindings ++ [binding]
            keys := config.keys ++ binding.key?.toList }) ∧
    config.bindings = start.acceptedBindings calls ∧
    (∀ later, config.bindings <+: (config.run later).bindings) ∧
    (∀ key, key ∈ config.keys ↔ ∃ binding ∈ config.bindings, binding.key? = some key) ∧
    (∀ call pair text,
      (∃ after, (Configuration.perform call).runOn config =
          (.error (.duplicateBinding pair text), after)) ↔
        pair = entityShape.pairWith filterShape ∧
          ∃ declaration binding key, call = .declare declaration ∧
            declaration.resolve entityShape filterShape config.settings = .ok binding ∧
            binding.key? = some key ∧
            (∃ earlier ∈ start.acceptedBindings calls, earlier.key? = some key) ∧
            text = key.text) ∧
    (∀ name condition, (name, .always) ∈ config.filterExclusions →
      (name, .when condition) ∉ config.filterExclusions) ∧
    ∀ after, (Builder.enter config).runOn builder = (.ok (), after) →
      ∃ registration, after.find? (entityShape.pairWith filterShape) = some registration ∧
        registration.bindings =
          (start.acceptedBindings calls ++ discoveredBindings config.findings).map
            config.withExclusions ∧
        (registration.bindings.filterMap (·.key?)).Nodup := by
  obtain ⟨ofEntity, ofFilter, valid⟩ := Builder.run_of_configure configured calls
  have coherent := Builder.coherent_of_configure configured calls
  have accepted := Builder.bindings_of_configure configured calls
  have ofPair := Builder.pair_of_configure configured calls
  rw [reached] at ofEntity ofFilter valid coherent accepted ofPair
  refine ⟨?_, ?_, accepted, ?_, coherent.mem_keys_iff, ?_, ?_, ?_⟩
  · intro call reason after failed
    exact (Configuration.runOn_perform_eq_error_iff.mp failed).2
  · intro declaration after succeeded
    cases Configuration.runOn_perform_eq_ok_iff.mp succeeded with
    | @declare _ binding resolved fresh =>
        rw [ofEntity, ofFilter] at resolved
        exact ⟨binding, resolved, rfl⟩
    | excludeFilter asked => nomatch asked
    | adjust asked => nomatch asked
  · intro later
    rw [Configuration.bindings_run]
    exact List.prefix_append _ _
  · intro call pair text
    simp only [Configuration.runOn_perform_eq_error_iff, exists_eq_right,
      Configuration.refuses_duplicateBinding_iff, coherent.mem_keys_iff, accepted, ofPair, ofEntity,
      ofFilter]
  · intro name condition always sometimes
    have first := (List.lookup_eq_some_iff_mem valid.once name _).mpr always
    have second := (List.lookup_eq_some_iff_mem valid.once name _).mpr sometimes
    nomatch first.symm.trans second
  · intro after entered
    rw [Builder.runOn_enter] at entered
    cases finished : config.finish with
    | error reason => simp [finished] at entered
    | ok registration =>
        simp only [finished, Prod.mk.injEq, true_and] at entered
        subst entered
        obtain ⟨-, same⟩ := Configuration.finish_eq_ok_iff.mp finished
        have samePair : registration.pair = entityShape.pairWith filterShape := by
          rw [← same, Registration.pair, ofEntity, ofFilter]
        refine ⟨registration, samePair ▸ Builder.find?_insert_self, ?_, ?_⟩
        · rw [← same, Configuration.allBindings, accepted]
        · rw [← same, Configuration.filterMap_key?_withExclusions]
          exact coherent.nodup_keys_allBindings

/-- The years are compared, and once more in vain; then the filter's year is kept out under a
condition, and once more in vain. -/
def yearCalls : List Call :=
  [.declare (.compare "Year" "From" .greaterOrEqual {}),
    .declare (.filterRange "From" "Name" "From" .inclusive .inclusive {}),
    .excludeFilterIf "From" isEarly, .excludeFilter "From", .defaultStringOp .contains]

theorem configuring_is_atomic_and_distinct_year :
    ({} : Builder).configure bookShape bookFilterShape = .ok bookStart ∧
      (∃ after, (Configuration.perform (.declare (.compare "Year" "From" .equal {}))).runOn
          (bookStart.run yearCalls) =
        (.error (.duplicateBinding ⟨"Book", "BookFilter"⟩ "Year <- filter.From"), after) ∧
          after = bookStart.run yearCalls) ∧
      ∃ after registration,
        (Builder.enter (bookStart.run yearCalls)).runOn {} = (.ok (), after) ∧
        after.find? ⟨"Book", "BookFilter"⟩ = some registration ∧
        registration.bindings.filterMap (·.key?) =
          [.pair "Year" "From", .pair "Name" "Name"] ∧
        (registration.bindings.filterMap (·.key?)).Nodup := by
  have configured : ({} : Builder).configure bookShape bookFilterShape = .ok bookStart := rfl
  obtain ⟨unchanged, -, -, -, -, duplicate, -, registered⟩ :=
    configuring_is_atomic_and_distinct configured (rfl : bookStart.run yearCalls = _)
  have earlier : ∃ earlier ∈ bookStart.acceptedBindings yearCalls,
      earlier.key? = some (.pair "Year" "From") := ⟨yearBinding, List.mem_cons_self, rfl⟩
  obtain ⟨after, failed⟩ := (duplicate (.declare (.compare "Year" "From" .equal {})) _ _).mpr
    ⟨rfl, _, _, _, rfl, rfl, rfl, earlier, rfl⟩
  obtain ⟨registration, found, bindings, distinct⟩ := registered _ rfl
  have keys : registration.bindings.filterMap (·.key?) =
      [.pair "Year" "From", .pair "Name" "Name"] := by
    rw [bindings]
    rfl
  exact ⟨configured, ⟨after, failed, unchanged _ _ _ failed⟩, _, registration, rfl, found, keys,
    distinct⟩

end RecordFilter
