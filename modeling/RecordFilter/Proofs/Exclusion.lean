import RecordFilter.Registry
import RecordFilter.Proofs.Runs
import RecordFilter.Proofs.Sides

set_option autoImplicit false

/-!
Conditional exclusion. Excluding a filter property under a condition leaves the run and its bindings
as they are, but for the conditions that finishing attaches to the bindings. For a filter record on
which the condition holds, the bindings that read the property are dropped, and no others.
-/

namespace RecordFilter

namespace Binding

/-- The binding without the conditions that drop it. -/
def withoutExclusions (binding : Binding) : Binding :=
  { binding with rules := { binding.rules with exclusions := [] } }

section ExcludedWhen

variable (binding : Binding) (conditions : List FilterCondition) (filter : Record)

theorem withoutExclusions_excludedWhen :
    (binding.excludedWhen conditions).withoutExclusions = binding.withoutExclusions := rfl

theorem excludedWhen_nil : binding.excludedWhen [] = binding := by
  rw [excludedWhen, List.append_nil]

theorem sides_excludedWhen :
    (binding.excludedWhen conditions).compile.sides = binding.compile.sides := by
  obtain ⟨constraint, rules⟩ := binding
  cases constraint <;> rfl

theorem reads_excludedWhen (filterShape : Shape) (name : String) :
    (binding.excludedWhen conditions).Reads filterShape name ↔
      binding.Reads filterShape name := by
  rw [Reads, CompiledBinding.trees, sides_excludedWhen]
  rfl

/-- The exclusions are the rules that apply to every kind of binding, a raw one too. -/
theorem rules_excludedWhen :
    (binding.excludedWhen conditions).compile.rules =
      { binding.compile.rules with
        exclusions := binding.compile.rules.exclusions ++ conditions } := by
  obtain ⟨constraint, rules⟩ := binding
  cases constraint <;> rfl

theorem defaultIgnore_excludedWhen :
    (binding.excludedWhen conditions).compile.defaultIgnore = binding.compile.defaultIgnore := by
  obtain ⟨constraint, rules⟩ := binding
  cases constraint <;> rfl

theorem isIgnored_excludedWhen :
    (binding.excludedWhen conditions).compile.isIgnored filter =
      (conditions.any (· filter) || binding.compile.isIgnored filter) := by
  rw [CompiledBinding.isIgnored, CompiledBinding.isIgnored, rules_excludedWhen,
    defaultIgnore_excludedWhen, Rules.drops, Rules.drops, List.any_append]
  ac_rfl

theorem fragment?_excludedWhen :
    (binding.excludedWhen conditions).compile.fragment? filter =
      if conditions.any (· filter) then none else binding.compile.fragment? filter := by
  rw [CompiledBinding.fragment?, isIgnored_excludedWhen, sides_excludedWhen, rules_excludedWhen]
  cases conditions.any (· filter) <;> rfl

theorem accepts_excludedWhen (entity : Record) :
    (binding.excludedWhen conditions).accepts filter entity =
      (conditions.any (· filter) || binding.accepts filter entity) := by
  rw [accepts, CompiledBinding.accepts, fragment?_excludedWhen]
  cases conditions.any (· filter) <;> rfl

end ExcludedWhen

end Binding

namespace Call

/-- Whether the call excludes a filter property under a condition. -/
def isConditional : Call → Bool
  | excludeFilterIf .. => true
  | _ => false

theorem exclusion?_eq_when_iff {call : Call} {name : String} {condition : FilterCondition} :
    call.exclusion? = some (name, .when condition) ↔ call = .excludeFilterIf name condition := by
  cases call <;> simp [exclusion?]

theorem isAlways_of_exclusion? {call : Call} {name : String} {exclusion : Exclusion}
    (asked : call.exclusion? = some (name, exclusion)) :
    exclusion.isAlways = !call.isConditional := by
  cases call <;> cases asked <;> rfl

end Call

/-- Whether calls exclude a filter property under a condition that holds on a filter record. -/
def IsExcludedBy (calls : List Call) (filter : Record) (name : String) : Prop :=
  ∃ condition, .excludeFilterIf name condition ∈ calls ∧ condition filter = true

namespace Configuration

variable {config next last : Configuration} {call : Call} {calls : List Call}

/-- The configuration without its conditional exclusions. -/
def unconditional (config : Configuration) : Configuration :=
  { config with filterExclusions := config.filterExclusions.filter (·.2.isAlways) }

theorem unconditional_of_fresh (fresh : config.filterExclusions = []) :
    config.unconditional = config := by
  rw [unconditional, fresh, List.filter_nil, ← fresh]

/-- A call that excludes under a condition leaves no trace beside the exclusion. -/
theorem Accepts.unconditional_eq (accepted : config.Accepts call next)
    (conditional : call.isConditional = true) : next.unconditional = config.unconditional := by
  cases accepted with
  | declare | excludeEntity => nomatch conditional
  | excludeFilter asked =>
      have dropped := Call.isAlways_of_exclusion? asked
      simp [unconditional, dropped, conditional]
  | adjust asked =>
      cases call with
      | excludeFilterIf => nomatch asked
      | _ => nomatch conditional

/-- Every other call is accepted without the conditional exclusions as well, to the same effect. -/
theorem Accepts.unconditional (accepted : config.Accepts call next)
    (plain : call.isConditional = false) :
    config.unconditional.Accepts call next.unconditional := by
  cases accepted with
  | declare resolved fresh => exact .declare resolved fresh
  | excludeEntity known fresh => exact .excludeEntity known fresh
  | @excludeFilter _ name exclusion asked known fresh =>
      have kept := Call.isAlways_of_exclusion? asked
      have shrunk : name ∉ config.unconditional.filterExclusions.map (·.1) := fun taken =>
        fresh ((List.filter_sublist.map _).subset taken)
      have added : { config with
            filterExclusions := config.filterExclusions ++ [(name, exclusion)] }.unconditional =
          { config.unconditional with
            filterExclusions := config.unconditional.filterExclusions ++ [(name, exclusion)] } := by
        simp [Configuration.unconditional, kept, plain]
      rw [added]
      exact .excludeFilter asked known shrunk
  | adjust asked => exact .adjust asked

/-- So a run without the calls that exclude under a condition differs in these exclusions alone. -/
theorem Reaches.unconditional (reached : config.Reaches calls last) :
    config.unconditional.Reaches (calls.filter (!·.isConditional)) last.unconditional := by
  induction reached with
  | refl config => exact .refl _
  | @step config _ _ call _ accepted rest ih =>
      -- A conditional call is left out, as it leads nowhere else; any other one is repeated.
      cases conditional : call.isConditional with
      | true =>
          rw [accepted.unconditional_eq conditional] at ih
          rw [List.filter_cons_of_neg (by simp [conditional])]
          exact ih
      | false =>
          rw [List.filter_cons_of_pos (by simp [conditional])]
          exact .step (accepted.unconditional conditional) ih

theorem findings_unconditional (config : Configuration) :
    config.unconditional.findings = config.findings := by
  simp [findings, claimedFilter, claimedEntity, unconditional]

theorem mem_of_exclusionCondition? {index : Nat} {condition : FilterCondition}
    (found : config.exclusionCondition? index = some condition) :
    (config.filter.nameAt index, .when condition) ∈ config.filterExclusions := by
  unfold exclusionCondition? at found
  split at found
  case h_1 other entered =>
    cases found
    obtain ⟨before, after, entries, -⟩ := List.lookup_eq_some_iff.mp entered
    exact entries ▸ List.mem_append_right before List.mem_cons_self
  case h_2 => nomatch found

theorem exclusionCondition?_unconditional (config : Configuration) (index : Nat) :
    config.unconditional.exclusionCondition? index = none := by
  cases found : config.unconditional.exclusionCondition? index with
  | none => rfl
  | some condition =>
      have kept := mem_of_exclusionCondition? found
      nomatch (List.mem_filter.mp kept).2

theorem withExclusions_unconditional (config : Configuration) (binding : Binding) :
    config.unconditional.withExclusions binding = binding := by
  have none : binding.filterFields.filterMap config.unconditional.exclusionCondition? = [] :=
    List.filterMap_eq_nil_iff.mpr fun index _ => config.exclusionCondition?_unconditional index
  rw [withExclusions, none, Binding.excludedWhen_nil]

theorem finish_unconditional (config : Configuration)
    (usable : requireBindings config.bindings config.findings config.pair = .ok ()) :
    config.unconditional.finish = .ok
      { entity := config.entity
        filter := config.filter
        bindings := config.allBindings
        lazy := config.settings.lazy } := by
  have same : config.unconditional.allBindings.map config.unconditional.withExclusions =
      config.allBindings := by
    rw [List.map_congr_left fun binding _ => config.withExclusions_unconditional binding,
      List.map_id', allBindings, findings_unconditional]
    rfl
  rw [finish_eq_ok_iff, findings_unconditional, same]
  exact ⟨usable, rfl⟩

theorem exclusionCondition?_eq_some_iff (valid : config.ExclusionsValid) {index : Nat}
    {condition : FilterCondition} :
    config.exclusionCondition? index = some condition ↔
      (config.filter.nameAt index, .when condition) ∈ config.filterExclusions := by
  rw [← List.lookup_eq_some_iff_mem valid.once, exclusionCondition?]
  cases config.filterExclusions.lookup (config.filter.nameAt index) with
  | none => simp
  | some exclusion => cases exclusion <;> simp

/-- Whether a filter property is excluded under a condition that holds on a filter record. -/
def Excludes (config : Configuration) (filter : Record) (name : String) : Prop :=
  ∃ condition, (name, .when condition) ∈ config.filterExclusions ∧ condition filter = true

/-- The conditions attached to a binding are those of the properties it reads. -/
theorem any_exclusionCondition?_iff (valid : config.ExclusionsValid) (binding : Binding)
    (filter : Record) :
    (binding.filterFields.filterMap config.exclusionCondition?).any (· filter) = true ↔
      ∃ name, config.Excludes filter name ∧ binding.Reads config.filter name := by
  -- A position behind the last field reads as the empty name, which nothing excludes.
  have named {name : String} {exclusion : Exclusion}
      (excluded : (name, exclusion) ∈ config.filterExclusions) : name ≠ "" := fun empty =>
    config.filter.empty_not_mem_names
      (empty ▸ valid.known name (List.mem_map_of_mem (f := Prod.fst) excluded))
  simp only [List.any_eq_true, List.mem_filterMap, exclusionCondition?_eq_some_iff valid]
  constructor
  · rintro ⟨condition, ⟨index, listed, excluded⟩, holds⟩
    exact ⟨_, ⟨condition, excluded, holds⟩,
      (binding.reads_iff_nameAt (named excluded)).mpr ⟨index, listed, rfl⟩⟩
  · rintro ⟨name, ⟨condition, excluded, holds⟩, reads⟩
    obtain ⟨index, listed, rfl⟩ := (binding.reads_iff_nameAt (named excluded)).mp reads
    exact ⟨condition, ⟨index, listed, excluded⟩, holds⟩

/-- Whether a binding reads none of the properties excluded for a filter record. -/
def Spares (config : Configuration) (filter : Record) (binding : Binding) : Prop :=
  ∀ name, config.Excludes filter name → ¬ binding.Reads config.filter name

theorem spares_withExclusions (filter : Record) (binding : Binding) :
    config.Spares filter (config.withExclusions binding) ↔ config.Spares filter binding := by
  simp only [Spares, withExclusions, Binding.reads_excludedWhen]

/-- With its conditions, a binding decides only where it is spared. -/
theorem accepts_withExclusions (valid : config.ExclusionsValid) (binding : Binding)
    (filter entity : Record) :
    (config.withExclusions binding).accepts filter entity = true ↔
      (config.Spares filter binding → binding.accepts filter entity = true) := by
  rw [withExclusions, Binding.accepts_excludedWhen, Bool.or_eq_true,
    any_exclusionCondition?_iff valid, Classical.or_iff_not_imp_left]
  simp only [Spares, not_exists, not_and]

/-- All bindings with their conditions accept when the spared ones do without. -/
theorem forall_accepts_withExclusions (valid : config.ExclusionsValid) (bindings : List Binding)
    (filter entity : Record) :
    (∀ binding ∈ bindings.map config.withExclusions, binding.accepts filter entity = true) ↔
      ∀ binding ∈ bindings,
        config.Spares filter binding → binding.accepts filter entity = true := by
  rw [List.forall_mem_map]
  exact forall₂_congr fun binding _ => accepts_withExclusions valid binding filter entity

/-- Of the bindings with their conditions only the spared ones can fail to accept. -/
theorem forall_spared_accepts_withExclusions (valid : config.ExclusionsValid)
    (bindings : List Binding) (filter entity : Record) :
    (∀ binding ∈ bindings.map config.withExclusions,
        config.Spares filter binding → binding.accepts filter entity = true) ↔
      ∀ binding ∈ bindings.map config.withExclusions,
        binding.accepts filter entity = true := by
  refine forall₂_congr fun binding member => ?_
  obtain ⟨bare, _, rfl⟩ := List.mem_map.mp member
  rw [spares_withExclusions, accepts_withExclusions valid]
  exact ⟨fun accepts spared => accepts spared spared, fun accepts _ => accepts⟩

/-- The conditional exclusions at the end of a run are the ones its accepted calls ask for. -/
theorem Reaches.excludes_iff (reached : config.Reaches calls last)
    (fresh : config.filterExclusions = []) (filter : Record) (name : String) :
    last.Excludes filter name ↔ IsExcludedBy calls filter name := by
  simp only [Excludes, IsExcludedBy, reached.filterExclusions_eq, fresh, List.nil_append,
    List.mem_filterMap, Call.exclusion?_eq_when_iff, exists_eq_right]

end Configuration

/-- The predicate of a registration tests what its bindings accept. It does not look at the shape of
the entity record. -/
theorem Registration.test_of_predicate {registration : Registration} {filter : Record}
    {predicate : Predicate} (found : registration.compile.predicate filter = .ok predicate)
    (entity : Record) :
    predicate.test entity = registration.bindings.all (·.accepts filter entity) := by
  have tree := CompiledFilter.eq_of_expr (CompiledFilter.expr_of_predicate found)
  rw [Predicate.test, Expr.lower_eq_holds, tree, CompiledFilter.holds_conjunction_fragments,
    compile, CompiledFilter.compile, List.all_map]
  rfl

theorem Registration.predicate_compile (registration : Registration) {filter : Record}
    (ofFilter : filter.shape.name = registration.filter.name) :
    ∃ predicate, registration.compile.predicate filter = .ok predicate ∧
      ∀ entity, entity.shape.name = registration.entity.name →
        predicate.test entity = registration.bindings.all (·.accepts filter entity) := by
  obtain ⟨predicate, found⟩ : ∃ predicate, registration.compile.predicate filter = .ok predicate :=
    CompiledFilter.predicate_of_shape ofFilter
  exact ⟨predicate, found, fun entity _ => test_of_predicate found entity⟩

/-- A conditional exclusion leaves the registered bindings as they are without it, but for the
conditions attached to them, and drops, for the filter records on which its condition holds, exactly
the bindings that read the property; whatever the order of the calls and whichever of them fail. -/
theorem conditional_exclusion_drops_readers {builder : Builder} {entityShape filterShape : Shape}
    {start : Configuration} {calls : List Call} {registration : Registration}
    (configured : builder.configure entityShape filterShape = .ok start)
    (finished : (start.run calls).finish = .ok registration) :
    ∃ plain,
      (start.run ((start.acceptedCalls calls).filter (!·.isConditional))).finish = .ok plain ∧
      registration.bindings.map (·.withoutExclusions) =
        plain.bindings.map (·.withoutExclusions) ∧
      ∀ filter, filter.shape.name = filterShape.name →
        ∃ predicate, registration.compile.predicate filter = .ok predicate ∧
          ∀ entity, entity.shape.name = entityShape.name →
            ∀ bindings ∈ [registration.bindings, plain.bindings],
              (predicate.test entity = true ↔ ∀ binding ∈ bindings,
                (∀ name, IsExcludedBy (start.acceptedCalls calls) filter name →
                  ¬ binding.Reads filterShape name) →
                (CompiledFilter.compile entityShape filterShape [binding]).accepts filter entity =
                  .ok true) := by
  have fresh : start.filterExclusions = [] := by rw [Builder.eq_of_configure configured]
  have reached := start.reaches_run calls
  obtain ⟨ofEntityShape, ofFilterShape, valid⟩ := Builder.run_of_configure configured calls
  have plainRun := reached.unconditional.run_eq
  rw [Configuration.unconditional_of_fresh fresh] at plainRun
  obtain ⟨usable, same⟩ := Configuration.finish_eq_ok_iff.mp finished
  obtain ⟨registeredEntity, registeredFilter, registered⟩ :
      registration.entity = entityShape ∧ registration.filter = filterShape ∧
        registration.bindings =
          (start.run calls).allBindings.map (start.run calls).withExclusions := by
    subst same
    exact ⟨ofEntityShape, ofFilterShape, rfl⟩
  refine ⟨_, plainRun ▸ (start.run calls).finish_unconditional usable, ?_, ?_⟩
  · rw [registered, List.map_map]
    exact List.map_congr_left fun binding _ => binding.withoutExclusions_excludedWhen _
  intro filter ofFilter
  obtain ⟨predicate, found, tested⟩ := registration.predicate_compile (registeredFilter ▸ ofFilter)
  refine ⟨predicate, found, fun entity ofEntity bindings listed => ?_⟩
  have spares (binding : Binding) :
      (∀ name, IsExcludedBy (start.acceptedCalls calls) filter name →
          ¬ binding.Reads filterShape name) ↔ (start.run calls).Spares filter binding := by
    simp only [Configuration.Spares, reached.excludes_iff fresh, ofFilterShape]
  simp only [tested entity (registeredEntity ▸ ofEntity), List.all_eq_true, spares,
    CompiledFilter.accepts_single _ ofFilter ofEntity, Except.ok.injEq]
  simp only [registered, List.mem_cons, List.not_mem_nil, or_false] at listed ⊢
  rcases listed with rfl | rfl
  · exact (Configuration.forall_spared_accepts_withExclusions valid _ filter entity).symm
  · exact Configuration.forall_accepts_withExclusions valid _ filter entity

/-- A book from before the years that are asked for. -/
def foundation : Record :=
  ⟨bookShape, [.string "Foundation", .number (.integer ⟨true, .w32⟩ ⟨1951, by decide, by decide⟩)],
    rfl⟩

/-- The year is before 1970. -/
def isEarly : FilterCondition := fun filter =>
  match filter.get 1 with
  | .number (.integer _ year) => year.value < 1970
  | _ => false

def publishedSince : Expr := .compare .greaterOrEqual (.field 1) (.filterField 1)

/-- The year is excluded before it is read, and once more in vain. The name is found by
discovery. -/
def bookCalls : List Call :=
  [.excludeFilterIf "From" isEarly, .declare (.raw "published since" publishedSince),
    .excludeFilterIf "From" fun _ => false, .excludeFilterIf "Name" fun _ => false]

def bookStart : Configuration := { entity := bookShape, filter := bookFilterShape, settings := {} }

def bookRegistration : Registration where
  entity := bookShape
  filter := bookFilterShape
  bindings :=
    [⟨.raw "published since" publishedSince, { exclusions := [isEarly] }⟩,
      { nameBinding with rules := { exclusions := [fun _ => false] } }]
  lazy := false

theorem conditional_exclusion_drops_readers_foundation :
    ({} : Builder).configure bookShape bookFilterShape = .ok bookStart ∧
      (bookStart.run bookCalls).finish = .ok bookRegistration ∧
      ∃ plain predicate,
        (bookStart.run [.declare (.raw "published since" publishedSince)]).finish = .ok plain ∧
        bookRegistration.bindings.map (·.withoutExclusions) =
          plain.bindings.map (·.withoutExclusions) ∧
        bookRegistration.compile.predicate fromTheSixties = .ok predicate ∧
        predicate.test foundation = true ∧
        ∀ binding ∈ plain.bindings,
          (∀ name, IsExcludedBy (bookStart.acceptedCalls bookCalls) fromTheSixties name →
            ¬ binding.Reads bookFilterShape name) →
          (CompiledFilter.compile bookShape bookFilterShape [binding]).accepts fromTheSixties
            foundation = .ok true := by
  have configured : ({} : Builder).configure bookShape bookFilterShape = .ok bookStart := rfl
  have finished : (bookStart.run bookCalls).finish = .ok bookRegistration := rfl
  obtain ⟨plain, kept, same, predicates⟩ := conditional_exclusion_drops_readers configured finished
  obtain ⟨predicate, found, decided⟩ := predicates fromTheSixties rfl
  have accepted : predicate.test foundation = true := by
    obtain rfl : _ = predicate := Except.ok.inj found
    rfl
  refine ⟨configured, finished, plain, predicate, kept, same, found, accepted, ?_⟩
  exact (decided foundation rfl plain.bindings (by simp)).mp accepted

end RecordFilter
