import RecordFilter.Proofs.Registrations
import RecordFilter.Proofs.Requests

set_option autoImplicit false

/-!
What a registry compiles and contains. A pair is compiled when it becomes ready: at the start if its
registration is not lazy, and otherwise when it is first asked for with success. From then on it
stays ready, so that it is never compiled again.
-/

namespace RecordFilter

/-- Whether the event reports that a pair is compiled. -/
def Event.compiles (pair : ShapePair) : Event → Bool
  | .compile compiled _ => compiled == pair
  | _ => false

namespace Registry

variable {registry : Registry} {inquiry : Inquiry} {answer : Answer} {pair : ShapePair}
  {outcome : Except FilterError CompiledFilter} {inquiries : List Inquiry}

/-- Whether a filter is held for a pair. -/
def isReady (registry : Registry) (pair : ShapePair) : Bool := (registry.held? pair).any (·.isOk)

theorem isReady_iff :
    registry.isReady pair = true ↔ ∃ compiled, registry.held? pair = some (.ok compiled) := by
  rw [isReady]
  cases registry.held? pair with
  | none => simp
  | some outcome => cases outcome <;> simp [Except.isOk, Except.toBool]

theorem isCompiled_eq (registry : Registry) (entity filter : Shape) :
    registry.isCompiled entity filter = registry.isReady (entity.pairWith filter) := by
  simp only [isCompiled, isReady, held?]
  cases registry.slot? (entity.pairWith filter) with
  | some slot =>
      obtain ⟨registration, compiled⟩ := slot
      cases compiled <;> rfl
  | none => cases registry.auto <;> rfl

theorem contains_eq (registry : Registry) (entity filter : Shape) :
    registry.contains entity filter =
      ((registry.registration? (entity.pairWith filter)).isSome ||
        registry.isReady (entity.pairWith filter)) := by
  simp only [contains, isReady, held?, registration?]
  cases registry.slot? (entity.pairWith filter) with
  | some slot => rfl
  | none => cases registry.auto <;> rfl

/-! A pair becomes ready when it is asked for with success, and is compiled then. -/

theorem countP_autoCompileEvents (entity filter : Shape) (settings : Settings) (pair : ShapePair) :
    (autoCompileEvents entity filter settings).countP (·.compiles pair) =
      (entity.pairWith filter == pair && (autoCompile entity filter settings).isOk).toNat := by
  have found : ((discover entity filter [] [] settings).map
      (·.event (entity.pairWith filter))).countP (·.compiles pair) = 0 := by
    rw [List.countP_map, List.countP_eq_zero]
    intro finding _
    cases finding <;> exact Bool.false_ne_true
  rw [autoCompileEvents, List.countP_append, found, Nat.zero_add]
  cases autoCompile entity filter settings with
  | error reason => simp [Except.isOk, Except.toBool]
  | ok compiled =>
      cases same : entity.pairWith filter == pair <;>
        simp [Event.compiles, Except.isOk, Except.toBool, same]

theorem compiles_compileEvent (registration : Registration) (pair : ShapePair) :
    registration.compileEvent.compiles pair = (registration.pair == pair) := rfl

/-- An answer compiles no other pair than the one it is for. -/
theorem Answers.countP_of_ne (answered : registry.Answers inquiry answer)
    (different : pair ≠ inquiry.pair) : answer.events.countP (·.compiles pair) = 0 := by
  have other : (inquiry.pair == pair) = false := beq_false_of_ne (Ne.symm different)
  cases answered with
  | @compiled slot found =>
      have ofPair : slot.registration.pair = inquiry.pair := pair_of_slot? found
      rw [List.countP_singleton, compiles_compileEvent, ofPair, other]
      rfl
  | discovered =>
      rw [countP_autoCompileEvents]
      exact congrArg (fun same => (same && _).toNat) other
  | _ => rfl

/-- An answer compiles its pair if that makes it ready. -/
theorem Answers.countP_self (answered : registry.Answers inquiry answer) :
    (registry.isReady inquiry.pair).toNat + answer.events.countP (·.compiles inquiry.pair) =
      (answer.registry.isReady inquiry.pair).toNat := by
  have kept := answered.held?_eq
  cases answered with
  | held => rfl
  | unknown => rfl
  | @compiled slot found fresh =>
      have before : registry.isReady inquiry.pair = false := by simp [isReady, held?, found, fresh]
      have ofPair : slot.registration.pair = inquiry.pair := pair_of_slot? found
      rcases kept with holds | ⟨unregistered, -⟩
      · rw [before, isReady, holds, List.countP_singleton, compiles_compileEvent, ofPair,
          beq_self_eq_true]
        rfl
      · simp [registration?, found] at unregistered
  | discovered unregistered automatic fresh =>
      have before : registry.isReady inquiry.pair = false := by
        simp [isReady, held?, unregistered, automatic, fresh]
      have ofPair : inquiry.entityShape.pairWith inquiry.filterShape = inquiry.pair := rfl
      rcases kept with holds | ⟨-, manual, -⟩
      · rw [before, isReady, holds, countP_autoCompileEvents, ofPair, beq_self_eq_true]
        simp
      · cases automatic.symm.trans manual

/-- An answer compiles what it makes ready. -/
theorem Answers.countP_compiles (answered : registry.Answers inquiry answer) (pair : ShapePair) :
    (registry.isReady pair).toNat + answer.events.countP (·.compiles pair) =
      (answer.registry.isReady pair).toNat := by
  by_cases same : pair = inquiry.pair
  · subst same
    exact answered.countP_self
  · rw [answered.countP_of_ne same, Nat.add_zero, isReady, isReady, answered.held?_of_ne same]

theorem countP_log (registry : Registry) (inquiries : List Inquiry) (pair : ShapePair) :
    (registry.isReady pair).toNat + (registry.log inquiries).countP (·.compiles pair) =
      ((registry.after inquiries).isReady pair).toNat := by
  induction inquiries generalizing registry with
  | nil => rfl
  | cons inquiry rest ih =>
      have first := (registry.answers inquiry).countP_compiles pair
      have others := ih (registry.answer inquiry).registry
      rw [log, List.countP_append, ← Nat.add_assoc, first, others]
      rfl

/-- Whether one of the inquiries is about a pair and is answered with a filter. -/
def Obtains (registry : Registry) (inquiries : List Inquiry) (pair : ShapePair) : Prop :=
  ∃ before inquiry rest compiled, inquiries = before ++ inquiry :: rest ∧ inquiry.pair = pair ∧
    ((registry.after before).answer inquiry).result = .ok compiled

theorem obtains_cons {rest : List Inquiry} :
    registry.Obtains (inquiry :: rest) pair ↔
      (inquiry.pair = pair ∧ ∃ compiled, (registry.answer inquiry).result = .ok compiled) ∨
        (registry.answer inquiry).registry.Obtains rest pair := by
  constructor
  · rintro ⟨before, other, after, compiled, split, ofPair, answered⟩
    cases before with
    | nil =>
        cases split
        exact Or.inl ⟨ofPair, compiled, answered⟩
    | cons first before =>
        cases split
        exact Or.inr ⟨before, other, after, compiled, rfl, ofPair, answered⟩
  · rintro (⟨ofPair, compiled, answered⟩ |
      ⟨before, other, after, compiled, rfl, ofPair, answered⟩)
    · exact ⟨[], inquiry, rest, compiled, rfl, ofPair, answered⟩
    · exact ⟨inquiry :: before, other, after, compiled, rfl, ofPair, answered⟩

/-- An answer makes its pair ready if it is a filter. -/
theorem isReady_answer_iff :
    (registry.answer inquiry).registry.isReady pair = true ↔ registry.isReady pair = true ∨
      inquiry.pair = pair ∧ ∃ compiled, (registry.answer inquiry).result = .ok compiled := by
  have answered := registry.answers inquiry
  simp only [isReady_iff]
  constructor
  · rintro ⟨compiled, holds⟩
    by_cases same : pair = inquiry.pair
    · subst same
      rcases answered.held?_eq with answeredWith | ⟨-, -, unknown⟩
      · exact Or.inr ⟨rfl, compiled, Option.some.inj (answeredWith.symm.trans holds)⟩
      · rw [unknown] at holds
        exact Or.inl ⟨compiled, holds⟩
    · exact Or.inl ⟨compiled, (answered.held?_of_ne same).symm.trans holds⟩
  · rintro (⟨compiled, holds⟩ | ⟨rfl, compiled, result⟩)
    · exact ⟨compiled, held?_answer_of_some holds inquiry⟩
    · rcases answered.held?_eq with answeredWith | ⟨-, -, unknown⟩
      · exact ⟨compiled, result ▸ answeredWith⟩
      · rw [unknown] at result
        nomatch result

/-- A pair is ready if it was at the start or was asked for with success. -/
theorem isReady_after_iff :
    (registry.after inquiries).isReady pair = true ↔
      registry.isReady pair = true ∨ registry.Obtains inquiries pair := by
  induction inquiries generalizing registry with
  | nil =>
      constructor
      · exact Or.inl
      · rintro (ready | ⟨before, inquiry, rest, compiled, split, -⟩)
        · exact ready
        · simp at split
  | cons inquiry rest ih =>
      have step : registry.after (inquiry :: rest) =
          (registry.answer inquiry).registry.after rest := rfl
      rw [step, ih, isReady_answer_iff, obtains_cons, or_assoc]

/-! The pairs that can be asked for. -/

/-- A registered pair is ready from the start unless it is lazy, and else once it is asked for. -/
theorem Sound.obtains_iff_of_registered (sound : registry.Sound) {registration : Registration}
    (registered : registry.registration? pair = some registration) :
    registry.Obtains inquiries pair ↔ ∃ inquiry ∈ inquiries, inquiry.pair = pair := by
  constructor
  · rintro ⟨before, inquiry, rest, compiled, rfl, ofPair, -⟩
    exact ⟨inquiry, List.mem_append_right _ List.mem_cons_self, ofPair⟩
  · rintro ⟨inquiry, asked, rfl⟩
    obtain ⟨before, rest, split⟩ := List.append_of_mem asked
    have still := (registry.registration?_after before inquiry.pair).trans registered
    have answered := (sound.after before).result_of_registered still
    exact ⟨before, inquiry, rest, registration.compile, split, rfl, answered⟩

/-- The pairs that are registered or were discovered with success. -/
def pairs (registry : Registry) : List ShapePair :=
  registry.slots.map (·.pair) ++
    registry.auto.elim [] fun auto => (auto.outcomes.filter (·.2.isOk)).map (·.1)

theorem length_pairs (registry : Registry) : registry.pairs.length = registry.size := by
  rw [pairs, size, List.length_append, List.length_map]
  congr 1
  cases registry.auto with
  | none => rfl
  | some auto =>
      rw [Option.elim_some, Option.elim_some, List.length_map, AutoRegistry.size,
        List.countP_eq_length_filter]

theorem registration?_isSome_iff :
    (registry.registration? pair).isSome = true ↔ pair ∈ registry.slots.map (·.pair) := by
  rw [registration?, Option.isSome_map, slot?, List.find?_isSome, List.mem_map]
  simp only [beq_iff_eq]

theorem Sound.nodup_pairs (sound : registry.Sound) : registry.pairs.Nodup := by
  rw [pairs]
  cases automatic : registry.auto with
  | none =>
      rw [Option.elim_none, List.append_nil]
      exact sound.distinct
  | some auto =>
      rw [Option.elim_some]
      apply sound.distinct.append
      · exact (sound.once auto automatic).sublist (List.filter_sublist.map _)
      · intro pair slotted discovered
        have known := (List.filter_sublist.map _).subset discovered
        have free := sound.apart auto automatic pair known
        have taken := registration?_isSome_iff.mpr slotted
        simp [free] at taken

theorem Sound.mem_pairs_iff (sound : registry.Sound) :
    pair ∈ registry.pairs ↔
      (registry.registration? pair).isSome = true ∨ registry.isReady pair = true := by
  rw [pairs, List.mem_append, ← registration?_isSome_iff]
  cases present : registry.slot? pair with
  | some slot => simp [registration?, present]
  | none =>
      refine or_congr_right ?_
      rw [isReady_iff, held?, present]
      cases automatic : registry.auto with
      | none => simp
      | some auto =>
          have found (compiled : CompiledFilter) :
              auto.outcome? pair = some (.ok compiled) ↔ (pair, .ok compiled) ∈ auto.outcomes :=
            List.lookup_eq_some_iff_mem (sound.once auto automatic) pair (.ok compiled)
          simp only [Option.elim_some, Option.bind_some, found, List.mem_map, List.mem_filter]
          constructor
          · rintro ⟨⟨pair, outcome⟩, ⟨member, isOk⟩, rfl⟩
            cases outcome with
            | error reason => cases isOk
            | ok compiled => exact ⟨compiled, member⟩
          · rintro ⟨compiled, member⟩
            exact ⟨(pair, .ok compiled), ⟨member, rfl⟩, rfl⟩

/-! The registry of a builder. -/

variable {builder : Builder}

theorem slot?_ofBuilder (builder : Builder) (pair : ShapePair) :
    (ofBuilder builder).slot? pair = (builder.find? pair).map Slot.ofRegistration := by
  rw [slot?, ofBuilder, List.find?_map]
  rfl

theorem registration?_ofBuilder (builder : Builder) (pair : ShapePair) :
    (ofBuilder builder).registration? pair = builder.find? pair := by
  rw [registration?, slot?_ofBuilder, Option.map_map]
  exact Option.map_id'

theorem held?_ofBuilder (unregistered : builder.find? pair = none) :
    (ofBuilder builder).held? pair = none := by
  rw [held?, slot?_ofBuilder, unregistered, ofBuilder]
  cases builder.settings.autoRegister <;> rfl

/-- At the start a pair is ready if it has a registration that is not lazy. -/
theorem isReady_ofBuilder (builder : Builder) (pair : ShapePair) :
    (ofBuilder builder).isReady pair = (builder.find? pair).any (!·.lazy) := by
  cases registered : builder.find? pair with
  | none =>
      rw [isReady, held?_ofBuilder registered]
      rfl
  | some registration =>
      rw [isReady, held?, slot?_ofBuilder, registered, Option.map_some, Option.any_some,
        Slot.ofRegistration]
      cases registration.lazy <;> rfl

theorem sound_ofBuilder (distinct : (builder.registrations.map (·.pair)).Nodup) :
    (ofBuilder builder).Sound := by
  have empty : ∀ auto ∈ (ofBuilder builder).auto, auto.outcomes = [] := by
    intro auto automatic
    rw [ofBuilder] at automatic
    split at automatic
    · cases automatic
      rfl
    · nomatch automatic
  constructor
  · rw [ofBuilder, List.map_map]
    exact distinct
  · intro pair slot found compiled held
    rw [slot?_ofBuilder] at found
    obtain ⟨registration, -, rfl⟩ := Option.map_eq_some_iff.mp found
    rw [Slot.ofRegistration] at held
    split at held
    · nomatch held
    · exact (Option.some.inj held).symm
  · intro auto automatic
    rw [empty auto automatic]
    exact List.nodup_nil
  · intro auto automatic
    rw [empty auto automatic]
    intro pair impossible
    nomatch impossible

/-- Building compiles what is ready at the start. -/
theorem countP_buildEvents (distinct : (builder.registrations.map (·.pair)).Nodup)
    (pair : ShapePair) :
    (buildEvents builder).countP (·.compiles pair) =
      ((ofBuilder builder).isReady pair).toNat := by
  have reports : (buildEvents builder).countP (·.compiles pair) =
      builder.registrations.countP fun registration =>
        registration.pair == pair && !registration.lazy := by
    rw [buildEvents, List.countP_append, List.countP_map, List.countP_filter]
    rfl
  rw [reports, isReady_ofBuilder]
  exact List.countP_key distinct pair (!·.lazy)

/-! The registry of a builder after inquiries. -/

@[simp] theorem registration?_after_ofBuilder (builder : Builder) (inquiries : List Inquiry)
    (pair : ShapePair) :
    ((ofBuilder builder).after inquiries).registration? pair = builder.find? pair := by
  rw [registration?_after, registration?_ofBuilder]

theorem settings_after_ofBuilder (builder : Builder) (inquiries : List Inquiry) :
    ((ofBuilder builder).after inquiries).auto.map (·.settings) =
      if builder.settings.autoRegister then some builder.settings else none := by
  rw [settings_after, ofBuilder]
  cases builder.settings.autoRegister <;> rfl

theorem isReady_after_ofBuilder_iff :
    ((ofBuilder builder).after inquiries).isReady pair = true ↔
      (builder.find? pair).any (!·.lazy) = true ∨ (ofBuilder builder).Obtains inquiries pair := by
  rw [isReady_after_iff, isReady_ofBuilder]

/-- What is ready from the start is registered. -/
theorem registered_or_isReady_iff :
    ((builder.find? pair).isSome = true ∨
        ((ofBuilder builder).after inquiries).isReady pair = true) ↔
      (builder.find? pair).isSome = true ∨ (ofBuilder builder).Obtains inquiries pair := by
  rw [isReady_after_ofBuilder_iff]
  cases builder.find? pair with
  | none => simp
  | some registration => simp

theorem result_after_ofBuilder (missing : builder.find? inquiry.pair = none)
    (on : builder.settings.autoRegister = true)
    (others : ∀ earlier ∈ inquiries, earlier.pair ≠ inquiry.pair) :
    (((ofBuilder builder).after inquiries).answer inquiry).result =
      autoCompile inquiry.entityShape inquiry.filterShape builder.settings := by
  have enabled := settings_after_ofBuilder builder inquiries
  rw [on, if_pos rfl] at enabled
  obtain ⟨auto, present, ofSettings⟩ := Option.map_eq_some_iff.mp enabled
  have unregistered := (registration?_after_ofBuilder builder inquiries _).trans missing
  have fresh : ((ofBuilder builder).after inquiries).held? inquiry.pair = none := by
    rw [held?_after_of_ne others]
    exact held?_ofBuilder missing
  rw [result_of_discovered unregistered present fresh, ofSettings]

theorem answer_after_ofBuilder (missing : builder.find? inquiry.pair = none)
    (off : builder.settings.autoRegister = false) :
    ((ofBuilder builder).after inquiries).answer inquiry =
      ⟨.error (.notRegistered inquiry.pair), (ofBuilder builder).after inquiries,
        [.notRegistered inquiry.pair]⟩ := by
  have disabled := settings_after_ofBuilder builder inquiries
  rw [off, if_neg Bool.false_ne_true, Option.map_eq_none_iff] at disabled
  exact answer_of_unknown ((registration?_after_ofBuilder _ _ _).trans missing) disabled

/-- Of the registered pairs, those that are not lazy or were asked for are ready; of the others,
those that were discovered with success. -/
theorem isReady_after_ofBuilder_cases (sound : (ofBuilder builder).Sound) :
    ((ofBuilder builder).after inquiries).isReady pair = true ↔
      match builder.find? pair with
      | some registration => registration.lazy = false ∨ ∃ inquiry ∈ inquiries, inquiry.pair = pair
      | none => (ofBuilder builder).Obtains inquiries pair := by
  rw [isReady_after_ofBuilder_iff]
  cases found : builder.find? pair with
  | none => simp
  | some registration =>
      have registered := (registration?_ofBuilder builder pair).trans found
      rw [sound.obtains_iff_of_registered registered]
      simp

/-- What is ready was compiled once, at the start or later, and nothing else was compiled. -/
theorem countP_events (distinct : (builder.registrations.map (·.pair)).Nodup)
    (inquiries : List Inquiry) (pair : ShapePair) :
    (buildEvents builder ++ (ofBuilder builder).log inquiries).countP (·.compiles pair) =
      (((ofBuilder builder).after inquiries).isReady pair).toNat := by
  rw [List.countP_append, countP_buildEvents distinct, countP_log]

end Registry

/-- A registry compiles every pair once and keeps what comes of it, whatever is asked for in between
and whichever shapes of the same names are asked with. An inquiry is answered like the first one
about its pair: with the filter of its registration, or else in auto-register mode with what
discovery finds for the shapes of the first inquiry, and without that mode as not registered, which
changes nothing. At every point the registry contains the registered pairs and those discovered with
success and counts each of them once; compiled are, of the registered pairs, those that are not lazy
or were asked for, and of the others those discovered with success. A pair that is compiled was
compiled once, at the start or later, and any other never. -/
theorem registry_caches_once {settings : Settings} {attempts : List Attempt} {builder : Builder}
    {registry : Registry} (collected : (Builder.withSettings settings).run attempts = builder)
    (built : Registry.ofBuilder builder = registry) :
    (∀ before first between later, later.pair = first.pair →
      ((registry.after (before ++ first :: between)).answer later).result =
        ((registry.after before).answer first).result) ∧
    (∀ before first between entity record, entity.pairWith record.shape = first.pair →
      (registry.after (before ++ first :: between)).predicate entity record =
        ((registry.after before).answer first).result >>= (·.predicate record)) ∧
    (∀ inquiries inquiry registration, builder.find? inquiry.pair = some registration →
      ((registry.after inquiries).answer inquiry).result = .ok registration.compile) ∧
    (∀ inquiries inquiry, builder.find? inquiry.pair = none → settings.autoRegister = true →
      (∀ earlier ∈ inquiries, earlier.pair ≠ inquiry.pair) →
        ((registry.after inquiries).answer inquiry).result =
          autoCompile inquiry.entityShape inquiry.filterShape settings) ∧
    (∀ inquiries inquiry, builder.find? inquiry.pair = none → settings.autoRegister = false →
      (registry.after inquiries).answer inquiry =
        ⟨.error (.notRegistered inquiry.pair), registry.after inquiries,
          [.notRegistered inquiry.pair]⟩) ∧
    (∀ inquiries entity filter pair, entity.pairWith filter = pair →
      ((registry.after inquiries).contains entity filter = true ↔
        (builder.find? pair).isSome = true ∨ registry.Obtains inquiries pair) ∧
      ((registry.after inquiries).isCompiled entity filter = true ↔
        match builder.find? pair with
        | some registration =>
          registration.lazy = false ∨ ∃ inquiry ∈ inquiries, inquiry.pair = pair
        | none => registry.Obtains inquiries pair) ∧
      (Registry.buildEvents builder ++ registry.log inquiries).countP (·.compiles pair) =
        if (registry.after inquiries).isCompiled entity filter then 1 else 0) ∧
    ∀ inquiries, ∃ pairs : List ShapePair, pairs.Nodup ∧
      (∀ pair, pair ∈ pairs ↔
        (builder.find? pair).isSome = true ∨ registry.Obtains inquiries pair) ∧
      (registry.after inquiries).size = pairs.length := by
  have ofSettings : builder.settings = settings := by
    rw [← collected]
    exact Builder.settings_run _ attempts
  have distinct : (builder.registrations.map (·.pair)).Nodup := by
    have new : ((Builder.withSettings settings).registrations.map (·.pair)).Nodup := List.nodup_nil
    rw [← collected]
    exact Builder.nodup_pairs_run new attempts
  subst built ofSettings
  have sound := Registry.sound_ofBuilder distinct
  have same (before : List Inquiry) (first : Inquiry) (between : List Inquiry) (later : Inquiry)
      (ofPair : later.pair = first.pair) :
      (((Registry.ofBuilder builder).after (before ++ first :: between)).answer later).result =
        (((Registry.ofBuilder builder).after before).answer first).result := by
    rw [Registry.after_append]
    exact Registry.result_after ofPair between
  refine ⟨same, ?_, ?_, ?_, ?_, ?_, ?_⟩
  · intro before first between entity record ofPair
    have answered := same before first between (.predicate entity record) ofPair
    rw [Registry.predicate, ← answered]
    rfl
  · intro inquiries inquiry registration found
    apply (sound.after inquiries).result_of_registered
    rw [Registry.registration?_after_ofBuilder, found]
  · intro inquiries inquiry
    exact Registry.result_after_ofBuilder
  · intro inquiries inquiry
    exact Registry.answer_after_ofBuilder
  · intro inquiries entity filter pair ofPair
    subst ofPair
    rw [Registry.contains_eq, Bool.or_eq_true, Registry.registration?_after_ofBuilder,
      Registry.isCompiled_eq, Registry.countP_events distinct]
    refine ⟨Registry.registered_or_isReady_iff, Registry.isReady_after_ofBuilder_cases sound,
      ?_⟩
    cases ((Registry.ofBuilder builder).after inquiries).isReady (entity.pairWith filter) <;> rfl
  · intro inquiries
    have kept := sound.after inquiries
    refine ⟨_, kept.nodup_pairs, ?_, (Registry.length_pairs _).symm⟩
    intro pair
    rw [kept.mem_pairs_iff, Registry.registration?_after_ofBuilder,
      Registry.registered_or_isReady_iff]

/-- Two shapes of one name; by the first one no book can be asked for. -/
def emptyShelf : Shape := ⟨"Shelf", [], rfl⟩

def shelf : Shape := ⟨"Shelf", [⟨"Name", .string⟩], rfl⟩

def libraryBuilder : Builder := (Builder.withSettings { autoRegister := true }).run [lazyBooks]

def library : Registry := .ofBuilder libraryBuilder

/-- The registered pair and one that is discovered in vain. -/
def libraryInquiries : List Inquiry :=
  [.filter bookShape emptyShelf, .predicate bookShape fromTheSixties]

theorem registry_caches_once_library :
    (Builder.withSettings { autoRegister := true }).run [lazyBooks] = libraryBuilder ∧
      Registry.ofBuilder libraryBuilder = library ∧
      (autoCompile bookShape shelf { autoRegister := true }).isOk = true ∧
      ((library.after libraryInquiries).answer (.filter bookShape shelf)).result.isOk = false ∧
      (library.after libraryInquiries).contains bookShape shelf = false ∧
      (library.after libraryInquiries).isCompiled bookShape bookFilterShape = true ∧
      (Registry.buildEvents libraryBuilder ++ library.log libraryInquiries).countP
        (·.compiles ⟨"Book", "BookFilter"⟩) = 1 := by
  have collected : (Builder.withSettings { autoRegister := true }).run [lazyBooks] =
      libraryBuilder := rfl
  have built : Registry.ofBuilder libraryBuilder = library := rfl
  obtain ⟨same, -, -, -, -, observed, -⟩ := registry_caches_once collected built
  have repeated := same [] (.filter bookShape emptyShelf) [.predicate bookShape fromTheSixties]
    (.filter bookShape shelf) rfl
  have failed : ((library.after libraryInquiries).answer (.filter bookShape shelf)).result.isOk =
      false := by
    refine (congrArg Except.isOk repeated).trans ?_
    rfl
  obtain ⟨-, compiled, counted⟩ := observed libraryInquiries bookShape bookFilterShape _ rfl
  have isCompiled : (library.after libraryInquiries).isCompiled bookShape bookFilterShape = true :=
    compiled.mpr (Or.inr ⟨.predicate bookShape fromTheSixties, by simp [libraryInquiries], rfl⟩)
  rw [if_pos isCompiled] at counted
  exact ⟨collected, built, rfl, failed, rfl, isCompiled, counted⟩

end RecordFilter
