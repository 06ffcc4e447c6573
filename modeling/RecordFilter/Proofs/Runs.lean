import RecordFilter.Builder
import RecordFilter.Proofs.Fields
import RecordFilter.Proofs.Outcomes

set_option autoImplicit false

/-!
Runs of calls on a configuration. A call is accepted under a condition on the configuration and
then changes one part of it; a refused call changes nothing. A run is therefore the run of its
accepted calls, and what every accepted call keeps is kept by the run.
-/

namespace RecordFilter

namespace Call

/-- The exclusion of a filter property that a call asks for. -/
def exclusion? : Call → Option (String × Exclusion)
  | excludeFilter name => some (name, .always)
  | excludeFilterIf name condition => some (name, .when condition)
  | _ => none

/-- The settings that a call asks for in the place of others. -/
def settings? (settings : Settings) : Call → Option Settings
  | stringComparison comparison => some { settings with stringComparison := comparison }
  | defaultStringOp op => some { settings with defaultStringOp := op }
  | lazy isLazy => some { settings with lazy := isLazy }
  | _ => none

theorem exclusion?_of_settings? {call : Call} {current settings : Settings}
    (asked : call.settings? current = some settings) : call.exclusion? = none := by
  cases call with
  | stringComparison | defaultStringOp | lazy => rfl
  | _ => nomatch asked

end Call

namespace Configuration

/-- What makes a configuration accept a call, and all that the call changes. -/
inductive Accepts (config : Configuration) : Call → Configuration → Prop where
  | declare {declaration : Declaration} {binding : Binding}
      (resolved : declaration.resolve config.entity config.filter config.settings = .ok binding)
      (fresh : ∀ key ∈ binding.key?, key ∉ config.keys) :
      Accepts config (.declare declaration)
        { config with
          bindings := config.bindings ++ [binding]
          keys := config.keys ++ binding.key?.toList }
  | excludeEntity {name : String} (known : name ∈ config.entity.names)
      (fresh : name ∉ config.entityExclusions) :
      Accepts config (.excludeEntity name)
        { config with entityExclusions := config.entityExclusions ++ [name] }
  | excludeFilter {call : Call} {name : String} {exclusion : Exclusion}
      (asked : call.exclusion? = some (name, exclusion)) (known : name ∈ config.filter.names)
      (fresh : name ∉ config.filterExclusions.map (·.1)) :
      Accepts config call
        { config with filterExclusions := config.filterExclusions ++ [(name, exclusion)] }
  | adjust {call : Call} {settings : Settings}
      (asked : call.settings? config.settings = some settings) :
      Accepts config call { config with settings }

/-- Why a configuration refuses a call. -/
inductive Refuses (config : Configuration) : Call → FilterError → Prop where
  | unresolved {declaration : Declaration} {reason : FilterError}
      (failed : declaration.resolve config.entity config.filter config.settings = .error reason) :
      Refuses config (.declare declaration) reason
  | keyTaken {declaration : Declaration} {binding : Binding} {key : BindingKey}
      (resolved : declaration.resolve config.entity config.filter config.settings = .ok binding)
      (keyed : binding.key? = some key) (taken : key ∈ config.keys) :
      Refuses config (.declare declaration) (.duplicateBinding config.pair key.text)
  | entityUnknown {name : String} (unknown : name ∉ config.entity.names) :
      Refuses config (.excludeEntity name) (.unknownProperty config.entity.name name)
  | entityExcluded {name : String} (known : name ∈ config.entity.names)
      (taken : name ∈ config.entityExclusions) :
      Refuses config (.excludeEntity name) (.duplicateExclusion config.entity.name name)
  | filterUnknown {call : Call} {name : String} {exclusion : Exclusion}
      (asked : call.exclusion? = some (name, exclusion)) (unknown : name ∉ config.filter.names) :
      Refuses config call (.unknownProperty config.filter.name name)
  | filterExcluded {call : Call} {name : String} {exclusion : Exclusion}
      (asked : call.exclusion? = some (name, exclusion)) (known : name ∈ config.filter.names)
      (taken : name ∈ config.filterExclusions.map (·.1)) :
      Refuses config call (.duplicateExclusion config.filter.name name)

variable {config next last : Configuration} {call : Call} {calls : List Call}

theorem lookup_filterExclusions_isSome_iff (config : Configuration) (name : String) :
    (config.filterExclusions.lookup name).isSome = true ↔
      name ∈ config.filterExclusions.map (·.1) := by
  simp only [List.lookup_isSome_iff, List.mem_map, beq_iff_eq, eq_comm (a := name)]

theorem accepts_or_refuses (config : Configuration) (call : Call) :
    (∃ next, config.Accepts call next) ∨ ∃ reason, config.Refuses call reason := by
  have excluding {call : Call} {name : String} {exclusion : Exclusion}
      (asked : call.exclusion? = some (name, exclusion)) :
      (∃ next, config.Accepts call next) ∨ ∃ reason, config.Refuses call reason := by
    by_cases known : name ∈ config.filter.names
    · by_cases taken : name ∈ config.filterExclusions.map (·.1)
      · exact Or.inr ⟨_, .filterExcluded asked known taken⟩
      · exact Or.inl ⟨_, .excludeFilter asked known taken⟩
    · exact Or.inr ⟨_, .filterUnknown asked known⟩
  cases call with
  | declare declaration =>
      cases resolved : declaration.resolve config.entity config.filter config.settings with
      | error reason => exact Or.inr ⟨reason, .unresolved resolved⟩
      | ok binding =>
          by_cases fresh : ∀ key ∈ binding.key?, key ∉ config.keys
          · exact Or.inl ⟨_, .declare resolved fresh⟩
          · obtain ⟨key, keyed, taken⟩ : ∃ key ∈ binding.key?, key ∈ config.keys := by
              simpa using fresh
            exact Or.inr ⟨_, .keyTaken resolved keyed taken⟩
  | excludeEntity name =>
      by_cases known : name ∈ config.entity.names
      · by_cases taken : name ∈ config.entityExclusions
        · exact Or.inr ⟨_, .entityExcluded known taken⟩
        · exact Or.inl ⟨_, .excludeEntity known taken⟩
      · exact Or.inr ⟨_, .entityUnknown known⟩
  | excludeFilter name => exact excluding rfl
  | excludeFilterIf name condition => exact excluding rfl
  | stringComparison comparison => exact Or.inl ⟨_, .adjust rfl⟩
  | defaultStringOp op => exact Or.inl ⟨_, .adjust rfl⟩
  | lazy isLazy => exact Or.inl ⟨_, .adjust rfl⟩

/-- An accepted call succeeds and writes what it changes. -/
theorem Accepts.runOn_perform (accepted : config.Accepts call next) :
    (perform call).runOn config = (.ok (), next) := by
  cases accepted with
  | @declare declaration binding resolved fresh =>
      cases keyed : binding.key? with
      | none => simp [perform, Configuration.declare, resolved, keyed]
      | some key =>
          have absent : key ∉ config.keys := fresh key keyed
          simp [perform, Configuration.declare, resolved, keyed, absent]
  | @excludeEntity name known fresh =>
      obtain ⟨-, property, found, rfl⟩ := (config.entity.property_cases name).resolve_right
        fun unknown => unknown.1 known
      simp [perform, Configuration.excludeEntity, found, fresh]
  | @excludeFilter _ name exclusion asked known fresh =>
      obtain ⟨-, property, found, rfl⟩ := (config.filter.property_cases name).resolve_right
        fun unknown => unknown.1 known
      have free : ¬ (config.filterExclusions.lookup property.name).isSome = true :=
        fun taken => fresh ((config.lookup_filterExclusions_isSome_iff _).mp taken)
      have excluded : (Configuration.excludeFilter property.name exclusion).runOn config =
          (.ok (), { config with
            filterExclusions := config.filterExclusions ++ [(property.name, exclusion)] }) := by
        simp [Configuration.excludeFilter, found, free]
      cases call <;> cases asked <;> exact excluded
  | adjust asked => cases call <;> cases asked <;> rfl

/-- A refused call fails before it writes anything. -/
theorem Refuses.runOn_perform {reason : FilterError} (refused : config.Refuses call reason) :
    (perform call).runOn config = (.error reason, config) := by
  cases refused with
  | unresolved failed => simp [perform, Configuration.declare, failed]
  | keyTaken resolved keyed taken => simp [perform, Configuration.declare, resolved, keyed, taken]
  | @entityUnknown name unknown =>
      obtain ⟨-, failed⟩ := (config.entity.property_cases name).resolve_left
        fun known => unknown known.1
      simp [perform, Configuration.excludeEntity, failed]
  | @entityExcluded name known taken =>
      obtain ⟨-, property, found, rfl⟩ := (config.entity.property_cases name).resolve_right
        fun unknown => unknown.1 known
      simp [perform, Configuration.excludeEntity, found, taken]
  | @filterUnknown _ name exclusion asked unknown =>
      obtain ⟨-, failed⟩ := (config.filter.property_cases name).resolve_left
        fun known => unknown known.1
      have refused : (Configuration.excludeFilter name exclusion).runOn config =
          (.error (.unknownProperty config.filter.name name), config) := by
        simp [Configuration.excludeFilter, failed]
      cases call <;> cases asked <;> exact refused
  | @filterExcluded _ name exclusion asked known taken =>
      obtain ⟨-, property, found, rfl⟩ := (config.filter.property_cases name).resolve_right
        fun unknown => unknown.1 known
      have present := (config.lookup_filterExclusions_isSome_iff _).mpr taken
      have refused : (Configuration.excludeFilter property.name exclusion).runOn config =
          (.error (.duplicateExclusion config.filter.name property.name), config) := by
        simp [Configuration.excludeFilter, found, present]
      cases call <;> cases asked <;> exact refused

/-- A call succeeds exactly when it is accepted. -/
theorem runOn_perform_eq_ok_iff :
    (perform call).runOn config = (.ok (), next) ↔ config.Accepts call next := by
  refine ⟨fun succeeded => ?_, Accepts.runOn_perform⟩
  rcases config.accepts_or_refuses call with ⟨other, accepted⟩ | ⟨reason, refused⟩
  · obtain rfl : other = next := congrArg Prod.snd (accepted.runOn_perform.symm.trans succeeded)
    exact accepted
  · nomatch refused.runOn_perform.symm.trans succeeded

/-- A call fails exactly when it is refused, and then leaves everything as it was. -/
theorem runOn_perform_eq_error_iff {reason : FilterError} :
    (perform call).runOn config = (.error reason, next) ↔
      config.Refuses call reason ∧ next = config := by
  constructor
  · intro failed
    rcases config.accepts_or_refuses call with ⟨other, accepted⟩ | ⟨other, refused⟩
    · nomatch accepted.runOn_perform.symm.trans failed
    · cases refused.runOn_perform.symm.trans failed
      exact ⟨refused, rfl⟩
  · rintro ⟨refused, rfl⟩
    exact refused.runOn_perform

theorem apply_eq_ok_iff : config.apply call = .ok next ↔ config.Accepts call next :=
  Update.outcome_eq_ok_iff.trans runOn_perform_eq_ok_iff

theorem Accepts.step_eq (accepted : config.Accepts call next) : config.step call = next :=
  congrArg Prod.snd accepted.runOn_perform

theorem Refuses.step_eq {reason : FilterError} (refused : config.Refuses call reason) :
    config.step call = config :=
  congrArg Prod.snd refused.runOn_perform

theorem Refuses.apply_eq {reason : FilterError} (refused : config.Refuses call reason) :
    config.apply call = .error reason := by
  rw [apply, Update.outcome, refused.runOn_perform]
  rfl

/-- A run in which every call is accepted. -/
inductive Reaches : Configuration → List Call → Configuration → Prop where
  | refl (config : Configuration) : Reaches config [] config
  | step {config next last : Configuration} {call : Call} {calls : List Call}
      (accepted : config.Accepts call next) (rest : Reaches next calls last) :
      Reaches config (call :: calls) last

/-- The calls of a run that are accepted. -/
def acceptedCalls (config : Configuration) : List Call → List Call
  | [] => []
  | call :: rest =>
    match config.apply call with
    | .ok next => call :: next.acceptedCalls rest
    | .error _ => config.acceptedCalls rest

/-- A run is the run of its accepted calls. -/
theorem reaches_run (config : Configuration) (calls : List Call) :
    config.Reaches (config.acceptedCalls calls) (config.run calls) := by
  induction calls generalizing config with
  | nil => exact .refl config
  | cons call rest ih =>
      rw [acceptedCalls, run, List.foldl_cons]
      rcases config.accepts_or_refuses call with ⟨next, accepted⟩ | ⟨reason, refused⟩
      · rw [apply_eq_ok_iff.mpr accepted, accepted.step_eq]
        exact .step accepted (ih next)
      · rw [refused.apply_eq, refused.step_eq]
        exact ih config

/-- Running calls of which each is accepted leads where they lead. -/
theorem Reaches.run_eq (reached : config.Reaches calls last) : config.run calls = last := by
  induction reached with
  | refl => rfl
  | step accepted rest ih =>
      rw [run, List.foldl_cons, accepted.step_eq]
      exact ih

/-- What every accepted call preserves, a run preserves. -/
theorem Reaches.preserves {motive : Configuration → Prop}
    (step : ∀ {config next : Configuration} {call : Call}, config.Accepts call next →
      motive config → motive next)
    (reached : config.Reaches calls last) (start : motive config) : motive last := by
  induction reached with
  | refl => exact start
  | step accepted rest ih => exact ih (step accepted start)

/-! The shapes are never changed. -/

theorem Accepts.shapes_eq (accepted : config.Accepts call next) :
    next.entity = config.entity ∧ next.filter = config.filter := by
  cases accepted <;> exact ⟨rfl, rfl⟩

theorem Reaches.shapes_eq (reached : config.Reaches calls last) :
    last.entity = config.entity ∧ last.filter = config.filter :=
  reached.preserves
    (motive := fun later => later.entity = config.entity ∧ later.filter = config.filter)
    (fun accepted same =>
      ⟨accepted.shapes_eq.1.trans same.1, accepted.shapes_eq.2.trans same.2⟩)
    ⟨rfl, rfl⟩

theorem shapes_step (config : Configuration) (call : Call) :
    (config.step call).entity = config.entity ∧ (config.step call).filter = config.filter := by
  rcases config.accepts_or_refuses call with ⟨next, accepted⟩ | ⟨reason, refused⟩
  · rw [accepted.step_eq]
    exact accepted.shapes_eq
  · rw [refused.step_eq]
    exact ⟨rfl, rfl⟩

/-! The filter exclusions are the ones asked for by the accepted calls, in their order. -/

theorem Accepts.filterExclusions_eq (accepted : config.Accepts call next) :
    next.filterExclusions = config.filterExclusions ++ call.exclusion?.toList := by
  cases accepted with
  | excludeFilter asked => rw [asked, Option.toList_some]
  | adjust asked =>
      rw [Call.exclusion?_of_settings? asked, Option.toList_none, List.append_nil]
  | _ => exact (List.append_nil _).symm

theorem Reaches.filterExclusions_eq (reached : config.Reaches calls last) :
    last.filterExclusions = config.filterExclusions ++ calls.filterMap (·.exclusion?) := by
  induction reached with
  | refl => simp
  | @step _ _ _ call _ accepted rest ih =>
      rw [ih, accepted.filterExclusions_eq]
      cases asked : call.exclusion? <;> simp [asked]

/-- Every excluded filter property is a field of the filter's shape and is excluded once. -/
structure ExclusionsValid (config : Configuration) : Prop where
  known : ∀ name ∈ config.filterExclusions.map (·.1), name ∈ config.filter.names
  once : (config.filterExclusions.map (·.1)).Nodup

theorem exclusionsValid_of_fresh (fresh : config.filterExclusions = []) :
    config.ExclusionsValid := by
  constructor <;> simp [fresh]

theorem Accepts.exclusionsValid (accepted : config.Accepts call next)
    (valid : config.ExclusionsValid) : next.ExclusionsValid := by
  cases accepted with
  | excludeFilter asked known fresh =>
      constructor
      · rw [List.map_append, List.forall_mem_append, List.map_singleton, List.forall_mem_singleton]
        exact ⟨valid.known, known⟩
      · rw [List.map_append, List.map_singleton]
        exact valid.once.append (List.nodup_singleton _) (List.disjoint_singleton.mpr fresh)
  | _ => exact ⟨valid.known, valid.once⟩

theorem Reaches.exclusionsValid (reached : config.Reaches calls last)
    (valid : config.ExclusionsValid) : last.ExclusionsValid :=
  reached.preserves Accepts.exclusionsValid valid

/-! Finishing adds the discovered bindings and attaches the conditions. -/

/-- The bindings of a configuration, the declared ones and behind them the discovered ones. -/
def allBindings (config : Configuration) : List Binding :=
  config.bindings ++ discoveredBindings config.findings

/-- Finishing succeeds when there is a binding, and attaches the conditions to all of them. -/
theorem finish_eq_ok_iff {registration : Registration} :
    config.finish = .ok registration ↔
      requireBindings config.bindings config.findings config.pair = .ok () ∧
        { entity := config.entity
          filter := config.filter
          bindings := config.allBindings.map config.withExclusions
          lazy := config.settings.lazy } = registration := by
  rw [finish]
  cases requireBindings config.bindings config.findings config.pair with
  | error reason => simp [bind, Except.bind]
  | ok => simp [bind, Except.bind, pure, Except.pure, allBindings]

end Configuration

namespace Builder

variable {builder next : Builder} {entity filter : Shape}

/-- A configuration starts out with nothing declared and nothing excluded. -/
theorem eq_of_configure {start : Configuration}
    (configured : builder.configure entity filter = .ok start) :
    start = { entity, filter, settings := builder.settings } := by
  unfold Builder.configure at configured
  split at configured
  case isTrue => nomatch configured
  case isFalse => exact (Except.ok.inj configured).symm

/-- What holds of a new configuration after every run of calls. -/
theorem run_of_configure {start : Configuration}
    (configured : builder.configure entity filter = .ok start) (calls : List Call) :
    (start.run calls).entity = entity ∧ (start.run calls).filter = filter ∧
      (start.run calls).ExclusionsValid := by
  have new := eq_of_configure configured
  have reached := start.reaches_run calls
  have fresh : start.filterExclusions = [] := by rw [new]
  have valid := reached.exclusionsValid (Configuration.exclusionsValid_of_fresh fresh)
  obtain ⟨sameEntity, sameFilter⟩ := reached.shapes_eq
  rw [new] at sameEntity sameFilter
  exact ⟨new ▸ sameEntity, new ▸ sameFilter, valid⟩

/-! A registration is found under its pair, whatever was there before, and no other is touched. -/

variable {registration : Registration} {pair : ShapePair}

theorem find?_insert_self :
    (builder.insert registration).find? registration.pair = some registration := by
  have dropped : (builder.registrations.filter (·.pair != registration.pair)).find?
      (·.pair == registration.pair) = none := by
    simp
  rw [find?, insert, List.find?_append, dropped, Option.none_or, List.find?_cons_of_pos]
  exact beq_self_eq_true _

theorem find?_insert_of_ne (different : pair ≠ registration.pair) :
    (builder.insert registration).find? pair = builder.find? pair := by
  have kept (entered : Registration) :
      decide ((entered.pair != registration.pair) = true ∧ (entered.pair == pair) = true) =
        (entered.pair == pair) := by
    by_cases same : entered.pair = pair
    · simp [same, different]
    · simp [same]
  have missing : [registration].find? (·.pair == pair) = none := by
    simpa using different.symm
  rw [find?, insert, List.find?_append, missing, Option.or_none, List.find?_filter]
  simp only [kept]
  rfl

/-- Only a configuration that finishes is taken in. -/
theorem runOn_enter (config : Configuration) (builder : Builder) :
    (enter config).runOn builder =
      match config.finish with
      | .ok registration => (.ok (), builder.insert registration)
      | .error reason => (.error reason, builder) := by
  cases finished : config.finish <;> simp [enter, finished]

end Builder

end RecordFilter
