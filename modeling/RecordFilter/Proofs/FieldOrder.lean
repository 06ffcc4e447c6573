import RecordFilter.Proofs.Candidates
import RecordFilter.Proofs.Reordering
import RecordFilter.Proofs.Laziness

set_option autoImplicit false

/-!
Configurations for shapes with their fields in another order. A run of calls by name has the same
results as for the original shapes and leaves the images of its bindings. So the finished filters
are made of the same conditions, though not in the same order, and decide alike about records that
hold the same values by name.
-/

namespace RecordFilter

/-- Whether a call names what it is about. -/
def Call.IsByName : Call → Prop
  | declare declaration => declaration.IsByName
  | _ => True

namespace Configuration

/-- Where the fields of its shapes stand in another pair of shapes. -/
def moves (config : Configuration) (entity filter : Shape) : Moves :=
  config.entity.movesTo config.filter entity filter

/-- The configuration for another pair of shapes. -/
def movedTo (config : Configuration) (entity filter : Shape) : Configuration :=
  { config with
    entity, filter
    bindings := config.bindings.map (·.moved (config.moves entity filter)) }

variable {config next : Configuration} {call : Call} {entity filter : Shape}
  (entities : config.entity.Reordering entity) (filters : config.filter.Reordering filter)

include entities filters

theorem pair_movedTo : (config.movedTo entity filter).pair = config.pair := by
  have sameEntity : entity.name = config.entity.name := entities.named
  have sameFilter : filter.name = config.filter.name := filters.named
  simp only [pair, movedTo, Shape.pairWith, sameEntity, sameFilter]

theorem Accepts.movedTo (accepted : config.Accepts call next) (byName : call.IsByName) :
    (config.movedTo entity filter).Accepts call (next.movedTo entity filter) := by
  cases accepted with
  | @declare declaration binding resolved fresh =>
      have image := Declaration.resolve_moved entities filters byName config.settings
      rw [resolved] at image
      have sameKey : (binding.moved (config.moves entity filter)).key? = binding.key? :=
        binding.key?_moved
      have added : Configuration.movedTo
          { config with
            bindings := config.bindings ++ [binding]
            keys := config.keys ++ binding.key?.toList } entity filter =
          { config.movedTo entity filter with
            bindings := (config.movedTo entity filter).bindings ++
              [binding.moved (config.moves entity filter)]
            keys := (config.movedTo entity filter).keys ++
              (binding.moved (config.moves entity filter)).key?.toList } := by
        rw [sameKey, Configuration.movedTo, List.map_append]
        rfl
      rw [added]
      exact .declare image (sameKey ▸ fresh)
  | @excludeEntity name known fresh =>
      exact .excludeEntity (entities.names_perm.mem_iff.mpr known) fresh
  | excludeFilter asked known fresh =>
      exact .excludeFilter asked (filters.names_perm.mem_iff.mpr known) fresh
  | adjust asked => exact .adjust asked

theorem Refuses.movedTo {reason : FilterError} (refused : config.Refuses call reason)
    (byName : call.IsByName) : (config.movedTo entity filter).Refuses call reason := by
  cases refused with
  | unresolved failed =>
      have image := Declaration.resolve_moved entities filters byName config.settings
      rw [failed] at image
      exact .unresolved image
  | @keyTaken declaration binding key resolved keyed taken =>
      have image := Declaration.resolve_moved entities filters byName config.settings
      rw [resolved] at image
      rw [← pair_movedTo entities filters]
      exact .keyTaken image (binding.key?_moved.trans keyed) taken
  | entityUnknown unknown =>
      rw [← entities.named]
      exact .entityUnknown fun known => unknown (entities.names_perm.mem_iff.mp known)
  | entityExcluded known taken =>
      rw [← entities.named]
      exact .entityExcluded (entities.names_perm.mem_iff.mpr known) taken
  | filterUnknown asked unknown =>
      rw [← filters.named]
      exact .filterUnknown asked fun known => unknown (filters.names_perm.mem_iff.mp known)
  | filterExcluded asked known taken =>
      rw [← filters.named]
      exact .filterExcluded asked (filters.names_perm.mem_iff.mpr known) taken

/-- A call by name has the same result for the other shapes, and what it leaves are images. -/
theorem runOn_perform_movedTo (byName : call.IsByName) :
    (perform call).runOn (config.movedTo entity filter) =
      (((perform call).runOn config).1, (config.step call).movedTo entity filter) := by
  rcases config.accepts_or_refuses call with ⟨next, accepted⟩ | ⟨reason, refused⟩
  · rw [(accepted.movedTo entities filters byName).runOn_perform, accepted.runOn_perform,
      accepted.step_eq]
  · rw [(refused.movedTo entities filters byName).runOn_perform, refused.runOn_perform,
      refused.step_eq]

theorem run_movedTo {calls : List Call} (byName : ∀ call ∈ calls, call.IsByName) :
    (config.movedTo entity filter).run calls = (config.run calls).movedTo entity filter := by
  induction calls generalizing config with
  | nil => rfl
  | cons call rest ih =>
      rw [List.forall_mem_cons] at byName
      have first : (config.movedTo entity filter).step call =
          (config.step call).movedTo entity filter :=
        congrArg Prod.snd (runOn_perform_movedTo entities filters byName.1)
      obtain ⟨sameEntity, sameFilter⟩ := config.shapes_step call
      rw [run, List.foldl_cons, ← run, first,
        ih (sameEntity ▸ entities) (sameFilter ▸ filters) byName.2]
      rfl

/-! What finishing comes to. -/

omit filters in
theorem claimedEntity_movedTo :
    (config.movedTo entity filter).claimedEntity = config.claimedEntity := by
  have named (binding : Binding) :
      (binding.moved (config.moves entity filter)).entityFields.map entity.nameAt =
        binding.entityFields.map config.entity.nameAt := by
    rw [Binding.entityFields_moved]
    exact entities.map_nameAt binding.entityFields
  rw [claimedEntity, claimedEntity, movedTo, List.flatMap_map]
  simp only [named]

omit entities in
theorem claimedFilter_movedTo :
    (config.movedTo entity filter).claimedFilter = config.claimedFilter := by
  have named (binding : Binding) :
      (binding.moved (config.moves entity filter)).filterFields.map filter.nameAt =
        binding.filterFields.map config.filter.nameAt := by
    rw [Binding.filterFields_moved]
    exact filters.map_nameAt binding.filterFields
  rw [claimedFilter, claimedFilter, movedTo, List.flatMap_map]
  simp only [named]

theorem findings_movedTo :
    (config.movedTo entity filter).findings.Perm
      (config.findings.map (·.moved (config.moves entity filter))) := by
  rw [findings, claimedEntity_movedTo entities, claimedFilter_movedTo filters]
  exact discover_perm entities filters config.settings _ _

omit entities in
theorem withExclusions_movedTo (binding : Binding) :
    (config.movedTo entity filter).withExclusions (binding.moved (config.moves entity filter)) =
      (config.withExclusions binding).moved (config.moves entity filter) := by
  have sameCondition (index : Nat) : (config.movedTo entity filter).exclusionCondition?
      (config.filter.positionIn filter index) = config.exclusionCondition? index := by
    have sameName : (config.movedTo entity filter).filter.nameAt
        (config.filter.positionIn filter index) = config.filter.nameAt index :=
      filters.nameAt_positionIn index
    rw [exclusionCondition?, exclusionCondition?, sameName]
    rfl
  have sameConditions : (binding.moved (config.moves entity filter)).filterFields.filterMap
        (config.movedTo entity filter).exclusionCondition? =
      binding.filterFields.filterMap config.exclusionCondition? := by
    rw [Binding.filterFields_moved, List.filterMap_map]
    exact List.filterMap_congr fun index _ => sameCondition index
  rw [withExclusions, withExclusions, sameConditions]
  rfl

theorem allBindings_movedTo :
    (config.movedTo entity filter).allBindings.Perm (config.allBindings.map
      (·.moved (config.moves entity filter))) := by
  rw [allBindings, allBindings, List.map_append]
  exact (discoveredBindings_perm (findings_movedTo entities filters)).append_left _

end Configuration

/-- Whether a registration is for the same fields in any order and has the images of the bindings of
another one, in any order as well. -/
structure Registration.Reordering (registration other : Registration) : Prop where
  entities : registration.entity.Reordering other.entity
  filters : registration.filter.Reordering other.filter
  bindings : other.bindings.Perm (registration.bindings.map
    (·.moved (registration.entity.movesTo registration.filter other.entity other.filter)))

/-- Both configurations fail to finish, or both finish with the images. -/
theorem Configuration.finish_movedTo {config : Configuration} {entity filter : Shape}
    (entities : config.entity.Reordering entity) (filters : config.filter.Reordering filter) :
    EndAlike Registration.Reordering config.finish (config.movedTo entity filter).finish := by
  have required := requireBindings_alike (findings_movedTo entities filters) config.bindings
    config.pair
  have images : ((config.movedTo entity filter).allBindings.map
      (config.movedTo entity filter).withExclusions).Perm
        ((config.allBindings.map config.withExclusions).map
          (·.moved (config.moves entity filter))) := by
    have attached := (allBindings_movedTo entities filters).map
      (config.movedTo entity filter).withExclusions
    rw [List.map_map] at attached ⊢
    refine attached.trans (List.Perm.of_eq (List.map_congr_left fun binding _ => ?_))
    exact withExclusions_movedTo filters binding
  rw [finish, finish, pair_movedTo entities filters]
  exact required.bind fun _ _ _ => .ok ⟨entities, filters, images⟩

/-! The rules of a run are those of its calls. -/

section Answers

variable (first second : Record)

/-- Whether what a call brings in to be asked of filter records answers alike on two of them. -/
def Call.AnswersAlike : Call → Prop
  | declare declaration => declaration.rules.AnswerAlike first second
  | excludeFilterIf _ condition => condition first = condition second
  | _ => True

/-- Whether all rules and conditions of a configuration answer alike on two filter records. -/
structure Configuration.AnswersAlike (config : Configuration) : Prop where
  bindings : ∀ binding ∈ config.bindings, binding.rules.AnswerAlike first second
  exclusions : ∀ name condition, (name, .when condition) ∈ config.filterExclusions →
    condition first = condition second

end Answers

namespace Configuration

variable {config next : Configuration} {call : Call} {first second : Record}

theorem Accepts.answersAlike (accepted : config.Accepts call next)
    (asked : call.AnswersAlike first second) (alike : config.AnswersAlike first second) :
    next.AnswersAlike first second := by
  cases accepted with
  | @declare declaration binding resolved fresh =>
      have ofBinding : binding.rules.AnswerAlike first second :=
        Declaration.rules_of_resolve resolved ▸ asked
      constructor
      · rw [List.forall_mem_append, List.forall_mem_singleton]
        exact ⟨alike.bindings, ofBinding⟩
      · exact alike.exclusions
  | @excludeFilter _ excluded exclusion added known fresh =>
      constructor
      · exact alike.bindings
      · intro name condition listed
        rcases List.mem_append.mp listed with before | new
        · exact alike.exclusions name condition before
        · obtain ⟨rfl, rfl⟩ := Prod.mk.inj (List.mem_singleton.mp new)
          obtain rfl := Call.exclusion?_eq_when_iff.mp added
          exact asked
  | _ => exact ⟨alike.bindings, alike.exclusions⟩

theorem answersAlike_run {calls : List Call}
    (asked : ∀ call ∈ calls, call.AnswersAlike first second)
    (alike : config.AnswersAlike first second) : (config.run calls).AnswersAlike first second := by
  induction calls generalizing config with
  | nil => exact alike
  | cons call rest ih =>
      rw [List.forall_mem_cons] at asked
      rw [run, List.foldl_cons, ← run]
      rcases config.accepts_or_refuses call with ⟨next, accepted⟩ | ⟨reason, refused⟩
      · rw [accepted.step_eq]
        exact ih asked.2 (accepted.answersAlike asked.1 alike)
      · rw [refused.step_eq]
        exact ih asked.2 alike

/-- What discovery adds has no rules, and finishing attaches nothing but the conditions. -/
theorem AnswersAlike.of_finish (alike : config.AnswersAlike first second)
    {registration : Registration} (finished : config.finish = .ok registration) :
    ∀ binding ∈ registration.bindings, binding.rules.AnswerAlike first second := by
  obtain ⟨-, rfl⟩ := finish_eq_ok_iff.mp finished
  have before : ∀ binding ∈ config.allBindings, binding.rules.AnswerAlike first second := by
    rw [allBindings, List.forall_mem_append]
    refine ⟨alike.bindings, fun binding discovered => ?_⟩
    obtain ⟨name, -, -, -, declaration, foundBy⟩ := mem_discoveredBindings_iff.mp discovered
    rw [Declaration.rules_of_resolve foundBy.resolve_eq,
      Declaration.rules_of_mem_ofName foundBy.mem_ofName]
    exact Rules.answerAlike_empty first second
  rw [List.forall_mem_map]
  intro binding member
  obtain ⟨reversal, nulls, ignoring, exclusions⟩ := before binding member
  refine ⟨reversal, nulls, ignoring, List.forall_mem_append.mpr ⟨exclusions, ?_⟩⟩
  intro condition attached
  obtain ⟨index, -, found⟩ := List.mem_filterMap.mp attached
  exact alike.exclusions _ _ (mem_of_exclusionCondition? found)

end Configuration

/-- Whether two filters for shapes with the same fields accept or reject alike all records that hold
the same values by name, where these are filter records to which what is asked answers alike. -/
def CompiledFilter.DecideAlike (entity filter otherEntity otherFilter : Shape)
    (asked : Record → Record → Prop) (compiled other : CompiledFilter) : Prop :=
  ∀ first second left right : Record, first.shape = filter → second.shape = otherFilter →
    first.SameByName second → asked first second → left.shape = entity →
    right.shape = otherEntity → left.SameByName right →
    ∃ accepted, compiled.accepts first left = .ok accepted ∧
      other.accepts second right = .ok accepted

/-- Registrations with the images of each other's bindings decide alike where the rules answer
alike. -/
theorem Registration.Reordering.decideAlike {registration other : Registration}
    (reordering : registration.Reordering other) {asked : Record → Record → Prop}
    (alike : ∀ first second, asked first second →
      ∀ binding ∈ registration.bindings, binding.rules.AnswerAlike first second) :
    CompiledFilter.DecideAlike registration.entity registration.filter other.entity other.filter
      asked registration.compile other.compile := by
  obtain ⟨entities, filters, images⟩ := reordering
  intro first second left right ofFirst ofSecond sameFilter isAsked ofLeft ofRight sameEntity
  have along : first.IsMoved (registration.filter.positionIn other.filter) second := by
    rw [← ofFirst, ← ofSecond] at filters ⊢
    exact sameFilter.isMoved filters
  have entityAlong : left.IsMoved (registration.entity.positionIn other.entity) right := by
    rw [← ofLeft, ← ofRight] at entities ⊢
    exact sameEntity.isMoved entities
  have decided : other.bindings.all (·.accepts second right) =
      registration.bindings.all (·.accepts first left) := by
    rw [images.all_eq, List.all_map, Bool.eq_iff_iff, List.all_eq_true, List.all_eq_true]
    refine forall₂_congr fun binding member => ?_
    have image : Binding.accepts (binding.moved (registration.entity.movesTo registration.filter
        other.entity other.filter)) second right = binding.accepts first left :=
      Binding.accepts_moved along (alike first second isAsked binding member) entityAlong
    rw [Function.comp_apply, image]
  refine ⟨registration.bindings.all (·.accepts first left), ?_, decided ▸ ?_⟩
  · exact CompiledFilter.accepts_compile _ (congrArg Shape.name ofFirst)
      (congrArg Shape.name ofLeft)
  · exact CompiledFilter.accepts_compile _ (congrArg Shape.name ofSecond)
      (congrArg Shape.name ofRight)

/-- Two configurations for the same fields in different orders finish alike, and their filters
decide alike where the rules and conditions of the first one answer alike. -/
theorem Configuration.finish_alike {config : Configuration} {entity filter : Shape}
    (entities : config.entity.Reordering entity) (filters : config.filter.Reordering filter)
    {asked : Record → Record → Prop}
    (alike : ∀ first second, asked first second → config.AnswersAlike first second) :
    EndAlike (CompiledFilter.DecideAlike config.entity config.filter entity filter asked)
      (config.finish.map (·.compile)) ((config.movedTo entity filter).finish.map (·.compile)) := by
  have ends := finish_movedTo entities filters
  cases finished : config.finish <;>
    cases finishedThere : (config.movedTo entity filter).finish <;>
    rw [finished, finishedThere] at ends
  case error.error =>
    cases ends with
    | error same => exact .error same
  case error.ok => nomatch ends
  case ok.error => nomatch ends
  case ok.ok registration other =>
    cases ends with
    | ok reordering =>
      obtain ⟨-, rfl⟩ := finish_eq_ok_iff.mp finished
      obtain ⟨-, rfl⟩ := finish_eq_ok_iff.mp finishedThere
      exact .ok (reordering.decideAlike fun first second isAsked =>
        (alike first second isAsked).of_finish finished)

/-- The order of fields is irrelevant. For shapes with the same fields in another order, every call
by name on a configuration has the same result as for the original ones, whatever calls came before
it, and finishing fails with an error of the same kind or comes to a filter that decides alike for
all records that hold the same values by name and on which the rules and conditions of the calls
answer alike. Discovery alone does so for all records. -/
theorem field_order_is_irrelevant {entity filter otherEntity otherFilter : Shape}
    (entities : entity.Reordering otherEntity) (filters : filter.Reordering otherFilter)
    {settings : Settings} {left right : Configuration}
    (startLeft : left = { entity, filter, settings })
    (startRight : right = { entity := otherEntity, filter := otherFilter, settings }) :
    (∀ calls : List Call, (∀ call ∈ calls, call.IsByName) →
      (∀ before call after, calls = before ++ call :: after →
        ((Configuration.perform call).runOn (left.run before)).1 =
          ((Configuration.perform call).runOn (right.run before)).1) ∧
      EndAlike (CompiledFilter.DecideAlike entity filter otherEntity otherFilter
          fun first second => ∀ call ∈ calls, call.AnswersAlike first second)
        ((left.run calls).finish.map (·.compile)) ((right.run calls).finish.map (·.compile))) ∧
    EndAlike (CompiledFilter.DecideAlike entity filter otherEntity otherFilter fun _ _ => True)
      (autoCompile entity filter settings) (autoCompile otherEntity otherFilter settings) := by
  have moved : right = left.movedTo otherEntity otherFilter := by
    rw [startRight, startLeft]
    rfl
  have fresh (first second : Record) : left.AnswersAlike first second := by
    rw [startLeft]
    constructor <;> intro _ <;> simp
  have reordered (calls : List Call) : (left.run calls).entity = entity ∧
      (left.run calls).filter = filter := by
    have same := (left.reaches_run calls).shapes_eq
    rw [startLeft] at same ⊢
    exact same
  have runs {calls : List Call} (byName : ∀ call ∈ calls, call.IsByName) :
      right.run calls = (left.run calls).movedTo otherEntity otherFilter := by
    obtain ⟨ofEntity, ofFilter⟩ := reordered []
    rw [moved]
    exact Configuration.run_movedTo (ofEntity ▸ entities) (ofFilter ▸ filters) byName
  have ends (calls : List Call) (asked : Record → Record → Prop)
      (alike : ∀ first second, asked first second → ∀ call ∈ calls,
        call.AnswersAlike first second) :
      EndAlike (CompiledFilter.DecideAlike entity filter otherEntity otherFilter asked)
        ((left.run calls).finish.map (·.compile))
        (((left.run calls).movedTo otherEntity otherFilter).finish.map (·.compile)) := by
    obtain ⟨ofEntity, ofFilter⟩ := reordered calls
    have decided := Configuration.finish_alike (ofEntity.symm ▸ entities)
      (ofFilter.symm ▸ filters) fun first second isAsked =>
        Configuration.answersAlike_run (alike first second isAsked) (fresh first second)
    rw [ofEntity, ofFilter] at decided
    exact decided
  refine ⟨fun calls byName => ⟨?_, ?_⟩, ?_⟩
  · rintro before call after rfl
    rw [List.forall_mem_append, List.forall_mem_cons] at byName
    obtain ⟨ofEntity, ofFilter⟩ := reordered before
    have performed := Configuration.runOn_perform_movedTo (ofEntity.symm ▸ entities)
      (ofFilter.symm ▸ filters) byName.2.1
    rw [runs byName.1, performed]
  · rw [runs byName]
    exact ends calls _ fun _ _ asked => asked
  · have discovered := ends [] (fun _ _ => True) fun _ _ _ _ impossible => nomatch impossible
    rw [autoCompile_eq_finish, autoCompile_eq_finish]
    rw [startLeft] at discovered
    exact discovered

/-- The same fields with the years in front. -/
def yearsFirst : Shape :=
  ⟨"Book", [⟨"Year", .nullable (.numeric .i32)⟩, ⟨"Name", .string⟩], by decide⟩

def yearsFirstFilter : Shape :=
  ⟨"BookFilter", [⟨"From", .nullable (.numeric .u32)⟩, ⟨"Name", .string⟩], by decide⟩

def yearsFirstStart : Configuration :=
  { entity := yearsFirst, filter := yearsFirstFilter, settings := {} }

/-- What was entered for Dune, in the other order. -/
def duneByYear : Record := ⟨yearsFirst, [dune.get 1, dune.get 0], rfl⟩

def fromTheSixtiesByYear : Record :=
  ⟨yearsFirstFilter, [fromTheSixties.get 1, fromTheSixties.get 0], rfl⟩

/-- No year is given, by name. -/
def isTimeless : FilterCondition := fun filter => (filter.field? "From").any (·.isNull)

def compareYears : Call := .declare (.compare "Year" "From" .greaterOrEqual {})

def compareTitles : Call := .declare (.compare "Title" "Name" .equal {})

/-- The years are compared, an unknown property is refused, and names are left to discovery. -/
def namedCalls : List Call := [compareYears, compareTitles, .excludeFilterIf "From" isTimeless]

theorem field_order_is_irrelevant_books :
    bookShape.Reordering yearsFirst ∧ bookFilterShape.Reordering yearsFirstFilter ∧
      (∀ call ∈ namedCalls, call.IsByName ∧
        call.AnswersAlike fromTheSixties fromTheSixtiesByYear) ∧
      fromTheSixties.SameByName fromTheSixtiesByYear ∧ dune.SameByName duneByYear ∧
      ((Configuration.perform compareTitles).runOn (yearsFirstStart.run [compareYears])).1 =
        .error (.unknownProperty "Book" "Title") ∧
      ∃ compiled other,
        (bookStart.run namedCalls).finish.map (·.compile) = .ok compiled ∧
        (yearsFirstStart.run namedCalls).finish.map (·.compile) = .ok other ∧
        ∃ accepted, compiled.accepts fromTheSixties dune = .ok accepted ∧
          other.accepts fromTheSixtiesByYear duneByYear = .ok accepted := by
  have entities : bookShape.Reordering yearsFirst := ⟨rfl, List.Perm.swap _ _ _⟩
  have filters : bookFilterShape.Reordering yearsFirstFilter := ⟨rfl, List.Perm.swap _ _ _⟩
  have calls : ∀ call ∈ namedCalls, call.IsByName ∧
      call.AnswersAlike fromTheSixties fromTheSixtiesByYear := by
    have noRules := Rules.answerAlike_empty fromTheSixties fromTheSixtiesByYear
    rw [namedCalls, List.forall_mem_cons, List.forall_mem_cons, List.forall_mem_singleton]
    exact ⟨⟨trivial, noRules⟩, ⟨trivial, noRules⟩, ⟨trivial, rfl⟩⟩
  have sameFilter : fromTheSixties.SameByName fromTheSixtiesByYear := by
    apply Record.sameByName_of_names filters
    exact List.forall_mem_cons.mpr ⟨rfl, List.forall_mem_singleton.mpr rfl⟩
  have sameEntity : dune.SameByName duneByYear := by
    apply Record.sameByName_of_names entities
    exact List.forall_mem_cons.mpr ⟨rfl, List.forall_mem_singleton.mpr rfl⟩
  obtain ⟨runs, -⟩ := field_order_is_irrelevant entities filters
    (rfl : bookStart = _) (rfl : yearsFirstStart = _)
  obtain ⟨results, ends⟩ := runs namedCalls fun call made => (calls call made).1
  have refused : ((Configuration.perform compareTitles).runOn (bookStart.run [compareYears])).1 =
      .error (.unknownProperty "Book" "Title") := rfl
  have refusedThere := (results [compareYears] compareTitles _ rfl).symm.trans refused
  obtain ⟨compiled, finished⟩ : ∃ compiled,
      (bookStart.run namedCalls).finish.map (·.compile) = .ok compiled := ⟨_, rfl⟩
  obtain ⟨other, finishedThere⟩ : ∃ other,
      (yearsFirstStart.run namedCalls).finish.map (·.compile) = .ok other := ⟨_, rfl⟩
  rw [finished, finishedThere] at ends
  refine ⟨entities, filters, calls, sameFilter, sameEntity, refusedThere, compiled, other,
    finished, finishedThere, ?_⟩
  cases ends with
  | ok decide =>
      exact decide fromTheSixties fromTheSixtiesByYear dune duneByYear rfl rfl sameFilter
        (fun call made => (calls call made).2) rfl rfl sameEntity

end RecordFilter
