import RecordFilter.Proofs.Caching

set_option autoImplicit false

/-!
What cannot be told apart by asking. A registration that is lazy is compiled later than one that is
not, and a pair that is discovered on its first request is compiled later still; the filter is the
same. What differs is erased here: two runs or two registries that are equal but for their laziness
answer everything alike and stay equal but for it.
-/

namespace RecordFilter

/-! The laziness is read by nothing that a configuration does before it finishes. -/

def Settings.eager (settings : Settings) : Settings := { settings with lazy := false }

theorem Declaration.resolve_eager (declaration : Declaration) (entity filter : Shape)
    (settings : Settings) :
    declaration.resolve entity filter settings.eager =
      declaration.resolve entity filter settings := by
  cases declaration <;> rfl

theorem discover_eager (entity filter : Shape) (claimedEntity claimedFilter : List String)
    (settings : Settings) :
    discover entity filter claimedEntity claimedFilter settings.eager =
      discover entity filter claimedEntity claimedFilter settings := by
  simp only [discover, findBinding, Declaration.resolve_eager]

/-- The registration as it is without its laziness. -/
def Registration.eager (registration : Registration) : Registration :=
  { registration with lazy := false }

/-- Whether the call sets the laziness. -/
def Call.setsLazy : Call → Bool
  | lazy _ => true
  | _ => false

namespace Configuration

variable {config next left right : Configuration} {call : Call}

def eager (config : Configuration) : Configuration :=
  { config with settings := config.settings.eager }

theorem Accepts.eager (accepted : config.Accepts call next) (others : call.setsLazy = false) :
    config.eager.Accepts call next.eager := by
  cases accepted with
  | declare resolved fresh =>
      exact .declare ((Declaration.resolve_eager _ _ _ _).trans resolved) fresh
  | excludeEntity known fresh => exact .excludeEntity known fresh
  | excludeFilter asked known fresh => exact .excludeFilter asked known fresh
  | adjust asked =>
      cases call with
      | stringComparison | defaultStringOp =>
          cases asked
          exact .adjust rfl
      | lazy => nomatch others
      | _ => nomatch asked

theorem Refuses.eager {reason : FilterError} (refused : config.Refuses call reason) :
    config.eager.Refuses call reason := by
  cases refused with
  | unresolved failed => exact .unresolved ((Declaration.resolve_eager _ _ _ _).trans failed)
  | keyTaken resolved keyed taken =>
      exact .keyTaken ((Declaration.resolve_eager _ _ _ _).trans resolved) keyed taken
  | entityUnknown unknown => exact .entityUnknown unknown
  | entityExcluded known taken => exact .entityExcluded known taken
  | filterUnknown asked unknown => exact .filterUnknown asked unknown
  | filterExcluded asked known taken => exact .filterExcluded asked known taken

theorem eager_step (config : Configuration) (others : call.setsLazy = false) :
    (config.step call).eager = config.eager.step call := by
  rcases config.accepts_or_refuses call with ⟨next, accepted⟩ | ⟨reason, refused⟩
  · rw [accepted.step_eq, (accepted.eager others).step_eq]
  · rw [refused.step_eq, refused.eager.step_eq]

/-- Calls that set the laziness can be left out of a run. -/
theorem eager_run (config : Configuration) (calls : List Call) :
    (config.run calls).eager = config.eager.run (calls.filter (!·.setsLazy)) := by
  induction calls generalizing config with
  | nil => rfl
  | cons call rest ih =>
      rw [run, List.foldl_cons, ← run, ih]
      cases sets : call.setsLazy with
      | false =>
          rw [List.filter_cons_of_pos (by simp [sets]), config.eager_step sets]
          rfl
      | true =>
          rw [List.filter_cons_of_neg (by simp [sets])]
          cases call with
          | lazy isLazy => rfl
          | _ => cases sets

theorem finish_eager (config : Configuration) :
    config.eager.finish = config.finish.map (·.eager) := by
  have same : config.eager.findings = config.findings := discover_eager _ _ _ _ _
  rw [finish, finish, same]
  change (requireBindings config.bindings config.findings config.pair >>= _) = _
  cases requireBindings config.bindings config.findings config.pair <;> rfl

end Configuration

/-- The attempt without the calls that set the laziness. -/
def Attempt.unflagged : Attempt → Attempt
  | register entity filter => .register entity filter
  | configure entity filter calls finished =>
    .configure entity filter (calls.filter (!·.setsLazy)) finished

namespace Attempt

variable {attempt other : Attempt}

theorem pair_unflagged (attempt : Attempt) : attempt.unflagged.pair = attempt.pair := by
  cases attempt <;> rfl

theorem finishes_unflagged (attempt : Attempt) :
    attempt.unflagged.finishes = attempt.finishes := by
  cases attempt <;> rfl

theorem finish_unflagged (attempt : Attempt) (settings : Settings) :
    (attempt.unflagged.configuration settings).finish.map (·.eager) =
      (attempt.configuration settings).finish.map (·.eager) := by
  rw [← Configuration.finish_eager, ← Configuration.finish_eager]
  cases attempt with
  | register entity filter => rfl
  | configure entity filter calls finished =>
      congr 1
      simp only [unflagged, configuration, Configuration.eager_run, List.filter_filter,
        Bool.and_self]

end Attempt

namespace Builder

variable {builder left right : Builder} {attempt other : Attempt}

/-- The builder as it is without the laziness of its registrations. -/
def eager (builder : Builder) : Builder :=
  { builder with registrations := builder.registrations.map (·.eager) }

theorem find?_eager (builder : Builder) (pair : ShapePair) :
    builder.eager.find? pair = (builder.find? pair).map (·.eager) := by
  rw [find?, eager, List.find?_map]
  rfl

theorem eager_insert (builder : Builder) (registration : Registration) :
    (builder.insert registration).eager = builder.eager.insert registration.eager := by
  simp only [insert, eager, List.map_append, List.map_singleton, List.filter_map]
  rfl

theorem nodup_pairs_of_eager (distinct : (left.registrations.map (·.pair)).Nodup)
    (same : left.eager = right.eager) : (right.registrations.map (·.pair)).Nodup := by
  have pairs (builder : Builder) :
      builder.registrations.map (·.pair) = builder.eager.registrations.map (·.pair) := by
    rw [eager, List.map_map]
    rfl
  rw [pairs, ← same, ← pairs]
  exact distinct

/-- Two attempts that differ in what they say about the laziness lead from builders that differ in
it to such builders. -/
theorem eager_step (same : left.eager = right.eager) (alike : attempt.unflagged = other.unflagged) :
    (left.step attempt).eager = (right.step other).eager := by
  have samePair : attempt.pair = other.pair := by
    rw [← attempt.pair_unflagged, alike, other.pair_unflagged]
  have sameFinishes : attempt.finishes = other.finishes := by
    rw [← attempt.finishes_unflagged, alike, other.finishes_unflagged]
  have sameSettings : left.settings = right.settings := (Builder.mk.inj same).1
  have sameFinish : (attempt.configuration left.settings).finish.map (·.eager) =
      (other.configuration right.settings).finish.map (·.eager) := by
    rw [← attempt.finish_unflagged, alike, other.finish_unflagged, sameSettings]
  have sameEntry : (left.find? attempt.pair).map (·.eager) =
      (right.find? other.pair).map (·.eager) := by
    rw [← find?_eager, same, samePair, find?_eager]
  rw [step, step, Update.stateAfter, Update.stateAfter, runOn_perform, runOn_perform, sameFinishes]
  cases foundLeft : left.find? attempt.pair <;> cases foundRight : right.find? other.pair <;>
    rw [foundLeft, foundRight] at sameEntry
  case some.some => exact same
  case some.none => cases sameEntry
  case none.some => cases sameEntry
  case none.none =>
    cases other.finishes with
    | false => exact same
    | true =>
        simp only [if_true, runOn_enter]
        cases endLeft : (attempt.configuration left.settings).finish <;>
          cases endRight : (other.configuration right.settings).finish <;>
          rw [endLeft, endRight] at sameFinish
        case error.error => exact same
        case error.ok => cases sameFinish
        case ok.error => cases sameFinish
        case ok.ok =>
          have sameEnd := Except.ok.inj sameFinish
          simp only [eager_insert, same, sameEnd]

theorem eager_run (same : left.eager = right.eager) {attempts others : List Attempt}
    (alike : attempts.map (·.unflagged) = others.map (·.unflagged)) :
    (left.run attempts).eager = (right.run others).eager := by
  induction attempts generalizing left right others with
  | nil =>
      obtain rfl : others = [] := by simpa using alike.symm
      exact same
  | cons attempt rest ih =>
      cases others with
      | nil => simp at alike
      | cons other others =>
          obtain ⟨first, rest⟩ := List.cons.inj alike
          exact ih (eager_step same first) rest

end Builder

namespace Registry

variable {registry left right : Registry} {inquiry : Inquiry} {answer : Answer}

/-! Two registries that are equal but for their laziness. -/

/-- A registered pair leaves the discovered outcomes alone. -/
theorem Answers.auto_of_registered (answered : registry.Answers inquiry answer)
    {registration : Registration}
    (registered : registry.registration? inquiry.pair = some registration) :
    answer.registry.auto = registry.auto := by
  cases answered with
  | discovered unregistered => simp [registration?, unregistered] at registered
  | _ => rfl

/-- Whether two registries differ in nothing but what is lazy and what is compiled by now. -/
structure Alike (left right : Registry) : Prop where
  soundLeft : left.Sound
  soundRight : right.Sound
  registrations : left.registrations.map (·.eager) = right.registrations.map (·.eager)
  auto : left.auto = right.auto

namespace Alike

theorem registration?_eq (alike : Alike left right) (pair : ShapePair) :
    (left.registration? pair).map (·.eager) = (right.registration? pair).map (·.eager) := by
  have erased (registry : Registry) : (registry.registration? pair).map (·.eager) =
      (registry.registrations.map (·.eager)).find? (·.pair == pair) := by
    rw [registration?_eq_find?, List.find?_map]
    rfl
  rw [erased, erased, alike.registrations]

/-- They answer alike and stay alike. -/
theorem answers_eq (alike : Alike left right) (inquiry : Inquiry) :
    (left.answer inquiry).result = (right.answer inquiry).result ∧
      Alike (left.answer inquiry).registry (right.answer inquiry).registry := by
  have answersLeft := left.answers inquiry
  have answersRight := right.answers inquiry
  have sameRegistrations : (left.answer inquiry).registry.registrations.map (·.eager) =
      (right.answer inquiry).registry.registrations.map (·.eager) := by
    rw [answersLeft.registrations_eq, answersRight.registrations_eq, alike.registrations]
  have sameEntry := alike.registration?_eq inquiry.pair
  suffices same : (left.answer inquiry).result = (right.answer inquiry).result ∧
      (left.answer inquiry).registry.auto = (right.answer inquiry).registry.auto from
    ⟨same.1, answersLeft.sound alike.soundLeft, answersRight.sound alike.soundRight,
      sameRegistrations, same.2⟩
  cases foundLeft : left.registration? inquiry.pair <;>
    cases foundRight : right.registration? inquiry.pair <;>
    rw [foundLeft, foundRight] at sameEntry
  case some.some registration twin =>
    have sameErased : registration.eager = twin.eager := Option.some.inj sameEntry
    have compiled : registration.eager.compile = twin.eager.compile :=
      congrArg Registration.compile sameErased
    rw [alike.soundLeft.result_of_registered foundLeft,
      alike.soundRight.result_of_registered foundRight,
      answersLeft.auto_of_registered foundLeft, answersRight.auto_of_registered foundRight]
    exact ⟨congrArg Except.ok compiled, alike.auto⟩
  case some.none => nomatch sameEntry
  case none.some => nomatch sameEntry
  case none.none =>
    rw [answer_of_unregistered foundLeft, answer_of_unregistered foundRight, alike.auto]
    cases automatic : right.auto with
    | none => exact ⟨rfl, alike.auto⟩
    | some auto =>
        simp only [answerAuto]
        cases auto.outcome? (inquiry.entityShape.pairWith inquiry.filterShape) with
        | some outcome => exact ⟨rfl, alike.auto⟩
        | none => exact ⟨rfl, rfl⟩

theorem after (alike : Alike left right) (inquiries : List Inquiry) :
    Alike (left.after inquiries) (right.after inquiries) := by
  induction inquiries generalizing left right with
  | nil => exact alike
  | cons inquiry rest ih => exact ih (alike.answers_eq inquiry).2

theorem predicate_eq (alike : Alike left right) (entity : Shape) (record : Record) :
    left.predicate entity record = right.predicate entity record := by
  have answered : (left.request entity record.shape).result =
      (right.request entity record.shape).result :=
    (alike.answers_eq (.predicate entity record)).1
  rw [predicate, predicate, answered]

theorem contains_eq (alike : Alike left right) (entity filter : Shape) :
    left.contains entity filter = right.contains entity filter := by
  have sameEntry := congrArg Option.isSome
    (alike.registration?_eq (entity.pairWith filter))
  simp only [registration?, Option.isSome_map] at sameEntry
  rw [contains, contains, sameEntry, alike.auto]

theorem size_eq (alike : Alike left right) : left.size = right.size := by
  have sameLength : left.slots.length = right.slots.length := by
    simpa [Registry.registrations] using congrArg List.length alike.registrations
  rw [size, size, sameLength, alike.auto]

theorem isAutoRegister_eq (alike : Alike left right) :
    left.isAutoRegister = right.isAutoRegister :=
  congrArg Option.isSome alike.auto

theorem isCompiled_eq_of_unregistered (alike : Alike left right) {entity filter : Shape}
    (unregistered : left.registration? (entity.pairWith filter) = none) :
    left.isCompiled entity filter = right.isCompiled entity filter := by
  have sameEntry := alike.registration?_eq (entity.pairWith filter)
  rw [unregistered, Option.map_none, eq_comm, Option.map_eq_none_iff] at sameEntry
  have contained := alike.contains_eq entity filter
  rw [Registry.contains_eq, Registry.contains_eq, unregistered, sameEntry] at contained
  rw [isCompiled_eq, isCompiled_eq]
  exact contained

end Alike

theorem registrations_ofBuilder (builder : Builder) :
    (ofBuilder builder).registrations = builder.registrations := by
  rw [registrations, ofBuilder, List.map_map]
  exact List.map_id' _

theorem alike_ofBuilder {left right : Builder}
    (distinct : (left.registrations.map (·.pair)).Nodup) (same : left.eager = right.eager) :
    Alike (ofBuilder left) (ofBuilder right) := by
  obtain ⟨sameSettings, sameRegistrations⟩ := Builder.mk.inj same
  refine ⟨sound_ofBuilder distinct,
    sound_ofBuilder (Builder.nodup_pairs_of_eager distinct same), ?_, ?_⟩
  · rw [registrations_ofBuilder, registrations_ofBuilder, sameRegistrations]
  · rw [ofBuilder, ofBuilder, sameSettings]

/-- A registered pair is compiled once it was asked for, and before only if it is not lazy. -/
theorem isCompiled_of_registered {builder : Builder}
    (distinct : (builder.registrations.map (·.pair)).Nodup) {entity filter : Shape}
    {registration : Registration}
    (registered : builder.find? (entity.pairWith filter) = some registration)
    (inquiries : List Inquiry) :
    ((ofBuilder builder).after inquiries).isCompiled entity filter = true ↔
      registration.lazy = false ∨
        ∃ inquiry ∈ inquiries, inquiry.pair = entity.pairWith filter := by
  have start := (registration?_ofBuilder builder _).trans registered
  rw [isCompiled_eq, isReady_after_iff, isReady_ofBuilder, registered,
    (sound_ofBuilder distinct).obtains_iff_of_registered start]
  simp

/-- Where a pair is compiled in one registry and not in the other, nobody asked for it, and it is
lazy in one of them alone. -/
theorem unasked_of_isCompiled_ne {left right : Builder}
    (distinct : (left.registrations.map (·.pair)).Nodup) (same : left.eager = right.eager)
    {inquiries : List Inquiry} {entity filter : Shape}
    (different : ((ofBuilder left).after inquiries).isCompiled entity filter ≠
      ((ofBuilder right).after inquiries).isCompiled entity filter) :
    (∀ inquiry ∈ inquiries, inquiry.pair ≠ entity.pairWith filter) ∧
      ∃ registration twin, left.find? (entity.pairWith filter) = some registration ∧
        right.find? (entity.pairWith filter) = some twin ∧ registration.lazy ≠ twin.lazy := by
  have sameEntry := congrArg (·.find? (entity.pairWith filter)) same
  simp only [Builder.find?_eager] at sameEntry
  cases foundLeft : left.find? (entity.pairWith filter) <;>
    cases foundRight : right.find? (entity.pairWith filter) <;>
    rw [foundLeft, foundRight] at sameEntry
  case none.some => nomatch sameEntry
  case some.none => nomatch sameEntry
  case none.none =>
    have alike := (alike_ofBuilder distinct same).after inquiries
    have unregistered : ((ofBuilder left).after inquiries).registration?
        (entity.pairWith filter) = none := by
      rw [registration?_after, registration?_ofBuilder, foundLeft]
    exact absurd (alike.isCompiled_eq_of_unregistered unregistered) different
  case some.some registration twin =>
    have compiledLeft := isCompiled_of_registered distinct foundLeft inquiries
    have compiledRight := isCompiled_of_registered (Builder.nodup_pairs_of_eager distinct same)
      foundRight inquiries
    constructor
    · intro inquiry asked ofPair
      apply different
      rw [compiledLeft.mpr (Or.inr ⟨inquiry, asked, ofPair⟩),
        compiledRight.mpr (Or.inr ⟨inquiry, asked, ofPair⟩)]
    · refine ⟨registration, twin, rfl, rfl, fun sameFlag => different ?_⟩
      rw [Bool.eq_iff_iff, compiledLeft, compiledRight, sameFlag]

/-- A new pair is discovered on the first request for it. -/
theorem result_of_new {builder : Builder} (automatic : builder.settings.autoRegister = true)
    (new : builder.find? inquiry.pair = none) {before : List Inquiry}
    (others : ∀ earlier ∈ before, earlier.pair ≠ inquiry.pair) :
    (((ofBuilder builder).after before).answer inquiry).result =
      autoCompile inquiry.entityShape inquiry.filterShape builder.settings := by
  have enabled : ((ofBuilder builder).after before).auto.map (·.settings) =
      some builder.settings := by
    rw [settings_after, ofBuilder, if_pos automatic]
    rfl
  obtain ⟨auto, present, sameSettings⟩ := Option.map_eq_some_iff.mp enabled
  have unregistered : ((ofBuilder builder).after before).registration? inquiry.pair = none := by
    rw [registration?_after, registration?_ofBuilder, new]
  have fresh : ((ofBuilder builder).after before).held? inquiry.pair = none := by
    rw [held?_after_of_ne others]
    exact held?_ofBuilder new
  rw [← sameSettings]
  exact result_of_discovered unregistered present fresh

/-- What was entered last is what every request for its pair comes to. -/
theorem result_of_entered {builder : Builder}
    (distinct : (builder.registrations.map (·.pair)).Nodup) {registration : Registration}
    (ofPair : registration.pair = inquiry.pair) (asked : List Inquiry) :
    (((ofBuilder (builder.insert registration)).after asked).answer inquiry).result =
      .ok registration.compile := by
  have sound : (ofBuilder (builder.insert registration)).Sound :=
    sound_ofBuilder (Builder.nodup_pairs_insert distinct)
  apply (sound.after asked).result_of_registered
  rw [registration?_after, registration?_ofBuilder, ← ofPair]
  exact Builder.find?_insert_self

end Registry

/-! What discovery compiles on request is what registering the pair would have entered. -/

/-- Requests for a new pair and configurations that nobody wrote to come to the same, errors
included. -/
theorem autoCompile_eq_finish (entity filter : Shape) (settings : Settings) :
    autoCompile entity filter settings =
      (Configuration.finish { entity, filter, settings }).map (·.compile) := by
  let config : Configuration := { entity, filter, settings }
  have discovers : autoCompile entity filter settings =
      requireBindings config.bindings config.findings config.pair >>= fun _ =>
        .ok (.compile entity filter config.allBindings) := rfl
  rw [discovers]
  cases usable : requireBindings config.bindings config.findings config.pair with
  | error reason =>
      have failed : config.finish = .error reason := by
        rw [Configuration.finish, usable]
        rfl
      exact (congrArg (Except.map (·.compile)) failed).symm
  | ok =>
      have finished := config.finish_unconditional usable
      exact (congrArg (Except.map (·.compile)) finished).symm

namespace Builder

variable {builder next : Builder} {entity filter : Shape}

/-- Registering a new pair fails like its configuration or enters what that finishes with. -/
theorem register_eq (new : builder.find? (entity.pairWith filter) = none) :
    builder.register entity filter =
      (Configuration.finish { entity, filter, settings := builder.settings }).map
        builder.insert := by
  have free : builder.find? (Attempt.register entity filter).pair = none := new
  have performed := runOn_perform builder (.register entity filter)
  rw [free] at performed
  rw [register, Builder.attempt, Update.outcome, Update.stateAfter, performed]
  simp only [Attempt.finishes, if_true, runOn_enter, Attempt.configuration]
  cases Configuration.finish { entity, filter, settings := builder.settings } <;> rfl

end Builder

/-- Automatic, lazy and eager registration cannot be told apart by their filters. In auto-register
mode the first request for a pair that is not registered fails with the very error that registering
the pair under the same settings fails with, or else both come to the same filter, with its labels
and its tree or error for every filter record. Attempts that differ in what they say about the
laziness lead to builders whose registrations differ in it alone. Whatever is asked of the
registries of two such builders, every answer and every predicate is the same and so is what is
contained; only a registered pair of different laziness, and only as long as nobody asked for it,
can be compiled in one of them and not yet in the other. -/
theorem laziness_is_unobservable (settings : Settings) :
    (∀ attempts builder before inquiry, settings.autoRegister = true →
      (Builder.withSettings settings).run attempts = builder →
      builder.find? inquiry.pair = none → (∀ earlier ∈ before, earlier.pair ≠ inquiry.pair) →
      ∀ others other, (Builder.withSettings settings).run others = other →
        other.find? inquiry.pair = none →
        match other.register inquiry.entityShape inquiry.filterShape with
        | .error reason =>
          (((Registry.ofBuilder builder).after before).answer inquiry).result = .error reason
        | .ok next => ∃ compiled,
          (((Registry.ofBuilder builder).after before).answer inquiry).result = .ok compiled ∧
          ∀ asked, (((Registry.ofBuilder next).after asked).answer inquiry).result =
            .ok compiled) ∧
    (∀ attempts others, attempts.map (·.unflagged) = others.map (·.unflagged) →
      ((Builder.withSettings settings).run attempts).eager =
        ((Builder.withSettings settings).run others).eager) ∧
    ∀ left right : Builder, (left.registrations.map (·.pair)).Nodup → left.eager = right.eager →
      ∀ inquiries leftLater rightLater, (Registry.ofBuilder left).after inquiries = leftLater →
        (Registry.ofBuilder right).after inquiries = rightLater →
        (∀ inquiry, (leftLater.answer inquiry).result = (rightLater.answer inquiry).result) ∧
        (∀ entity record, leftLater.predicate entity record = rightLater.predicate entity record) ∧
        (∀ entity filter, leftLater.contains entity filter = rightLater.contains entity filter) ∧
        leftLater.size = rightLater.size ∧
        leftLater.isAutoRegister = rightLater.isAutoRegister ∧
        ∀ entity filter pair, entity.pairWith filter = pair →
          leftLater.isCompiled entity filter ≠ rightLater.isCompiled entity filter →
          (∀ inquiry ∈ inquiries, inquiry.pair ≠ pair) ∧
          ∃ registration twin, left.find? pair = some registration ∧
            right.find? pair = some twin ∧ registration.lazy ≠ twin.lazy := by
  refine ⟨?_, ?_, ?_⟩
  · intro attempts builder before inquiry automatic collected new fresh others other reached free
    have ofSettings : builder.settings = settings := by
      rw [← collected]
      exact Builder.settings_run _ attempts
    have sameSettings : other.settings = settings := by
      rw [← reached]
      exact Builder.settings_run _ others
    have answered := Registry.result_of_new (ofSettings ▸ automatic) new fresh
    rw [answered, Builder.register_eq free, autoCompile_eq_finish, ofSettings, sameSettings]
    cases finished : Configuration.finish
      { entity := inquiry.entityShape, filter := inquiry.filterShape, settings } with
    | error reason => rfl
    | ok registration =>
        refine ⟨registration.compile, rfl, fun asked => ?_⟩
        have start : ((Builder.withSettings settings).registrations.map (·.pair)).Nodup :=
          List.nodup_nil
        have distinct : (other.registrations.map (·.pair)).Nodup :=
          reached ▸ Builder.nodup_pairs_run start others
        let entered : Attempt := .register inquiry.entityShape inquiry.filterShape
        have ofPair : registration.pair = entered.pair := Attempt.pair_of_finish finished
        exact Registry.result_of_entered distinct ofPair asked
  · intro attempts others alike
    exact Builder.eager_run rfl alike
  · rintro left right distinct same inquiries _ _ rfl rfl
    have alike := (Registry.alike_ofBuilder distinct same).after inquiries
    refine ⟨fun inquiry => (alike.answers_eq inquiry).1, alike.predicate_eq, alike.contains_eq,
      alike.size_eq, alike.isAutoRegister_eq, ?_⟩
    rintro entity filter pair rfl different
    exact Registry.unasked_of_isCompiled_ne distinct same different

/-- Books as they are in the library, but compiled at the start. -/
def eagerBooks : Attempt :=
  .configure bookShape bookFilterShape [.defaultStringOp .contains, .lazy false] true

def eagerLibraryBuilder : Builder :=
  (Builder.withSettings { autoRegister := true }).run [eagerBooks]

theorem laziness_is_unobservable_library :
    (library.answer (.filter bookShape emptyShelf)).result =
        .error (.noUsableBinding ⟨"Book", "Shelf"⟩) ∧
      (∃ next compiled,
        (Builder.withSettings { autoRegister := true }).register bookShape shelf = .ok next ∧
        (library.answer (.filter bookShape shelf)).result = .ok compiled ∧
        ((Registry.ofBuilder next).answer (.filter bookShape shelf)).result = .ok compiled) ∧
      (∀ inquiries inquiry, ((library.after inquiries).answer inquiry).result =
        (((Registry.ofBuilder eagerLibraryBuilder).after inquiries).answer inquiry).result) ∧
      library.isCompiled bookShape bookFilterShape = false ∧
      (Registry.ofBuilder eagerLibraryBuilder).isCompiled bookShape bookFilterShape = true := by
  obtain ⟨first, erased, alike⟩ := laziness_is_unobservable { autoRegister := true }
  have missing : libraryBuilder.find? ⟨"Book", "Shelf"⟩ = none := rfl
  have discovered (shape : Shape) (named : shape.name = "Shelf") :=
    first [lazyBooks] libraryBuilder [] (.filter bookShape shape) rfl rfl
      (by rw [← missing, ← named]; rfl) (fun _ impossible => nomatch impossible) [] _ rfl rfl
  refine ⟨discovered emptyShelf rfl, ?_, ?_, rfl, rfl⟩
  · obtain ⟨compiled, result, registered⟩ := discovered shelf rfl
    exact ⟨_, compiled, rfl, result, registered []⟩
  · intro inquiries inquiry
    have same := erased [lazyBooks] [eagerBooks] rfl
    have distinct : (libraryBuilder.registrations.map (·.pair)).Nodup := by decide
    exact (alike libraryBuilder eagerLibraryBuilder distinct same inquiries _ _ rfl rfl).1 inquiry

end RecordFilter
