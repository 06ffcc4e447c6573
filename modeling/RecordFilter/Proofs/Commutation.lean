import RecordFilter.Proofs.Admission
import RecordFilter.Proofs.Discovery

set_option autoImplicit false

/-!
Calls on a configuration commute. Runs of the same calls in two orders end in configurations that
hold the same bindings and exclusions, each in an order of its own. Nothing reads the order:
discovery looks up whether names are claimed, a property has one exclusion, and a predicate joins
its bindings.
-/

namespace RecordFilter

namespace Configuration

variable {config : Configuration} {calls others : List Call} {settings : Settings}

/-- Two configurations of the same pair with the same bindings and exclusions, each in an order of
its own, and with settings that agree but for the laziness. -/
structure Rearranges (first second : Configuration) : Prop where
  entity : first.entity = second.entity
  filter : first.filter = second.filter
  settings : first.settings.eager = second.settings.eager
  bindings : first.bindings.Perm second.bindings
  entityExclusions : first.entityExclusions.Perm second.entityExclusions
  filterExclusions : first.filterExclusions.Perm second.filterExclusions

theorem extended_rearranges (permuted : calls.Perm others)
    (sameSettings : (calls.foldl Call.settle config.settings).eager =
      (others.foldl Call.settle config.settings).eager) :
    (config.extended settings calls).Rearranges (config.extended settings others) where
  entity := rfl
  filter := rfl
  settings := sameSettings
  bindings := (permuted.filterMap _).append_left _
  entityExclusions := (permuted.filterMap _).append_left _
  filterExclusions := (permuted.filterMap _).append_left _

end Configuration

/-- Discovery looks up which names are claimed, in whichever order they are listed. -/
theorem discover_congr {entity filter : Shape} {claimedEntity claimedFilter otherEntity
    otherFilter : List String} {settings : Settings}
    (sameEntity : ∀ name, name ∈ claimedEntity ↔ name ∈ otherEntity)
    (sameFilter : ∀ name, name ∈ claimedFilter ↔ name ∈ otherFilter) :
    discover entity filter claimedEntity claimedFilter settings =
      discover entity filter otherEntity otherFilter settings := by
  have ofEntity (name : String) : claimedEntity.contains name = otherEntity.contains name := by
    rw [Bool.eq_iff_iff, List.contains_iff_mem, List.contains_iff_mem, sameEntity]
  have ofFilter (name : String) : claimedFilter.contains name = otherFilter.contains name := by
    rw [Bool.eq_iff_iff, List.contains_iff_mem, List.contains_iff_mem, sameFilter]
  simp only [discover, ofEntity, ofFilter]

/-- Two ends that are the same error, or values that are related. -/
inductive SameEnd {ε α β : Type} (related : α → β → Prop) : Except ε α → Except ε β → Prop where
  | error (reason : ε) : SameEnd related (.error reason) (.error reason)
  | ok {value : α} {other : β} (same : related value other) :
      SameEnd related (.ok value) (.ok other)

namespace Registration

/-- Whether two registrations give, for every filter record, the same error or two predicates that
accept the same entities. -/
def DecidesAs (first second : Registration) : Prop :=
  ∀ filter, SameEnd (fun left right : Predicate => ∀ entity, left.test entity = right.test entity)
    (first.compile.predicate filter) (second.compile.predicate filter)

theorem decidesAs_of_perm {first second : Registration} (sameFilter : first.filter = second.filter)
    (bindings : first.bindings.Perm second.bindings) : first.DecidesAs second := by
  intro filter
  by_cases ofFilter : filter.shape.name = second.filter.name
  · obtain ⟨left, foundLeft⟩ : ∃ left, first.compile.predicate filter = .ok left :=
      CompiledFilter.predicate_of_shape (ofFilter.trans (congrArg Shape.name sameFilter.symm))
    obtain ⟨right, foundRight⟩ : ∃ right, second.compile.predicate filter = .ok right :=
      CompiledFilter.predicate_of_shape ofFilter
    rw [foundLeft, foundRight]
    apply SameEnd.ok
    intro entity
    rw [test_of_predicate foundLeft, test_of_predicate foundRight]
    exact bindings.all_eq
  · have refused {registration : Registration} (same : registration.filter = second.filter) :
        registration.compile.predicate filter =
          .error (.invalidRecord second.filter.name (.otherShape filter.shape.name)) := by
      have checked : registration.compile.filterShape = second.filter := same
      rw [CompiledFilter.predicate, CompiledFilter.expr, checked, Shape.checkRecord,
        if_neg ofFilter]
      rfl
    rw [refused sameFilter, refused rfl]
    exact .error _

end Registration

namespace Configuration

variable {first second : Configuration} (rearranges : first.Rearranges second)

include rearranges

theorem Rearranges.findings_eq : first.findings = second.findings := by
  have claimedEntity (name : String) :
      name ∈ first.claimedEntity ↔ name ∈ second.claimedEntity := by
    rw [mem_claimedEntity_iff, mem_claimedEntity_iff, rearranges.entity]
    simp only [rearranges.entityExclusions.mem_iff, rearranges.bindings.mem_iff]
  have claimedFilter (name : String) :
      name ∈ first.claimedFilter ↔ name ∈ second.claimedFilter := by
    rw [mem_claimedFilter_iff, mem_claimedFilter_iff, rearranges.filter]
    simp only [rearranges.filterExclusions.mem_iff, rearranges.bindings.mem_iff]
  rw [findings, findings, discover_congr claimedEntity claimedFilter, rearranges.entity,
    rearranges.filter, ← discover_eager, rearranges.settings, discover_eager]

section Valid

variable (validFirst : first.ExclusionsValid) (validSecond : second.ExclusionsValid)

include validFirst validSecond

/-- As each property is excluded once, the order of the exclusions does not count. -/
theorem Rearranges.withExclusions_eq : first.withExclusions = second.withExclusions := by
  have conditions : first.exclusionCondition? = second.exclusionCondition? := by
    funext index
    apply Option.ext
    intro condition
    rw [exclusionCondition?_eq_some_iff validFirst, exclusionCondition?_eq_some_iff validSecond,
      rearranges.filter, rearranges.filterExclusions.mem_iff]
  funext binding
  rw [withExclusions, withExclusions, conditions]

/-- Both finish, with registrations that decide alike, or fail for the same reason. -/
theorem Rearranges.finish : SameEnd Registration.DecidesAs first.finish second.finish := by
  have sameFindings := rearranges.findings_eq
  have samePair : first.pair = second.pair := by
    rw [pair, pair, rearranges.entity, rearranges.filter]
  have usable : requireBindings first.bindings first.findings first.pair =
      requireBindings second.bindings second.findings second.pair := by
    rw [requireBindings, requireBindings, sameFindings, samePair, rearranges.bindings.isEmpty_eq]
  have registered : ((first.bindings ++ discoveredBindings first.findings).map
      first.withExclusions).Perm
      ((second.bindings ++ discoveredBindings second.findings).map second.withExclusions) := by
    rw [sameFindings, rearranges.withExclusions_eq validFirst validSecond]
    exact (rearranges.bindings.append_right _).map _
  rw [Configuration.finish, Configuration.finish, usable]
  cases requireBindings second.bindings second.findings second.pair with
  | error reason => exact .error reason
  | ok =>
      apply SameEnd.ok
      exact Registration.decidesAs_of_perm rearranges.filter registered

end Valid

end Configuration

/-- Calls on a configuration commute. Take calls of which all succeed, with the defaults for strings
set only before all declarations, and put the other calls in any other order that keeps these first.
Then all succeed in that order, too. The same bindings are discovered, with the same conditions
attached. Finishing fails for the same reason, or for every filter record the two registrations give
predicates that accept the same entities. -/
theorem calls_commute {builder : Builder} {entityShape filterShape : Shape}
    {start first : Configuration} {calls others : List Call}
    (configured : builder.configure entityShape filterShape = .ok start)
    (permuted : calls.Perm others)
    (sameDefaults : calls.filter (·.setsStrings) = others.filter (·.setsStrings))
    (settles : SettlesFirst calls) (otherSettles : SettlesFirst others)
    (succeed : calls.foldlM Configuration.apply start = .ok first) :
    ∃ second, others.foldlM Configuration.apply start = .ok second ∧
      discoveredBindings first.findings = discoveredBindings second.findings ∧
      (∀ binding, first.withExclusions binding = second.withExclusions binding) ∧
      SameEnd Registration.DecidesAs first.finish second.finish := by
  have fresh : start.filterExclusions = [] := by rw [Builder.eq_of_configure configured]
  have valid : start.ExclusionsValid := Configuration.exclusionsValid_of_fresh fresh
  have sameSettings : (calls.foldl Call.settle start.settings).eager =
      (others.foldl Call.settle start.settings).eager := by
    rw [Call.eager_foldl_settle, Call.eager_foldl_settle, sameDefaults]
  have reached := Configuration.foldlM_apply_eq_ok_iff.mp succeed
  obtain ⟨permits, rfl⟩ := (Configuration.reaches_iff settles rfl).mp reached
  have otherReached := (Configuration.reaches_iff otherSettles sameSettings).mpr
    ⟨permits.perm permuted, rfl⟩
  have rearranges : (start.extended (calls.foldl Call.settle start.settings) calls).Rearranges
      (start.extended (calls.foldl Call.settle start.settings) others) :=
    Configuration.extended_rearranges permuted sameSettings
  have validFirst := reached.exclusionsValid valid
  have validSecond := otherReached.exclusionsValid valid
  refine ⟨_, Configuration.foldlM_apply_eq_ok_iff.mpr otherReached, ?_, ?_, ?_⟩
  · rw [rearranges.findings_eq]
  · exact congrFun (rearranges.withExclusions_eq validFirst validSecond)
  · exact rearranges.finish validFirst validSecond

/-- The year is read twice, and for some filter records not at all. The name is discovered, under
the default that is set. -/
def yearFirst : List Call :=
  [.excludeFilterIf "From" isEarly, .defaultStringOp .contains,
    .declare (.compare "Year" "From" .greaterOrEqual {}),
    .declare (.raw "published since" publishedSince)]

def yearLast : List Call :=
  [.defaultStringOp .contains, .declare (.raw "published since" publishedSince),
    .declare (.compare "Year" "From" .greaterOrEqual {}), .excludeFilterIf "From" isEarly]

theorem yearFirst_perm : yearFirst.Perm yearLast := by
  refine (List.perm_append_singleton _ _).symm.trans (List.Perm.cons _ ?_)
  exact List.Perm.swap _ _ _

theorem calls_commute_year :
    ({} : Builder).configure bookShape bookFilterShape = .ok bookStart ∧
      SettlesFirst yearFirst ∧ SettlesFirst yearLast ∧
      ∃ first second registration other,
        yearFirst.foldlM Configuration.apply bookStart = .ok first ∧
        yearLast.foldlM Configuration.apply bookStart = .ok second ∧
        discoveredBindings first.findings = discoveredBindings second.findings ∧
        first.finish = .ok registration ∧ second.finish = .ok other ∧
        registration.DecidesAs other := by
  have configured : ({} : Builder).configure bookShape bookFilterShape = .ok bookStart := rfl
  have settles : SettlesFirst yearFirst := by
    unfold SettlesFirst yearFirst; decide
  have otherSettles : SettlesFirst yearLast := by
    unfold SettlesFirst yearLast; decide
  obtain ⟨first, succeed⟩ : ∃ first,
      yearFirst.foldlM Configuration.apply bookStart = .ok first := ⟨_, rfl⟩
  obtain ⟨second, succeedToo, discovered, -, ends⟩ :=
    calls_commute configured yearFirst_perm rfl settles otherSettles succeed
  obtain ⟨registration, finished⟩ : ∃ registration, first.finish = .ok registration := by
    obtain rfl : _ = first := Except.ok.inj succeed
    exact ⟨_, rfl⟩
  rw [finished] at ends
  cases finishedToo : second.finish with
  | error reason =>
      rw [finishedToo] at ends
      nomatch ends
  | ok other =>
      rw [finishedToo] at ends
      cases ends with
      | ok same =>
          exact ⟨configured, settles, otherSettles, first, second, registration, other, succeed,
            succeedToo, discovered, finished, finishedToo, same⟩

end RecordFilter
