import RecordFilter.Registry
import RecordFilter.Proofs.Runs

set_option autoImplicit false

/-!
How a registry answers. It holds, for a pair, nothing or one outcome: the filter of a registration
once it is compiled, or what discovery came to, a failure too. An outcome that is held is the answer
from then on; an inquiry about a pair for which nothing is held leaves an outcome behind and touches
no other pair.
-/

namespace RecordFilter

theorem AutoRegistry.outcome?_append (auto : AutoRegistry) (pair other : ShapePair)
    (outcome : Except FilterError CompiledFilter) :
    outcome? { auto with outcomes := auto.outcomes ++ [(pair, outcome)] } other =
      (auto.outcome? other).or (if other = pair then some outcome else none) := by
  rw [outcome?, List.lookup_append, List.lookup_cons, List.lookup_nil]
  by_cases same : other = pair
  · rw [if_pos same, beq_iff_eq.mpr same]
    rfl
  · rw [if_neg same, beq_false_of_ne same]
    rfl

namespace Registry

variable {registry : Registry} {inquiry : Inquiry} {answer : Answer} {pair : ShapePair}
  {outcome : Except FilterError CompiledFilter} {inquiries : List Inquiry}

/-! What is held for a pair. -/

def registration? (registry : Registry) (pair : ShapePair) : Option Registration :=
  (registry.slot? pair).map (·.registration)

/-- The outcome that is held for a pair. -/
def held? (registry : Registry) (pair : ShapePair) : Option (Except FilterError CompiledFilter) :=
  match registry.slot? pair with
  | some slot => slot.compiled.map .ok
  | none => registry.auto.bind (·.outcome? pair)

theorem pair_of_slot? {slot : Slot} (found : registry.slot? pair = some slot) :
    slot.pair = pair := by
  simpa using List.find?_some found

theorem slot?_keep (registry : Registry) (pair other : ShapePair) (compiled : CompiledFilter) :
    (registry.keep pair compiled).slot? other = (registry.slot? other).map fun slot =>
      if slot.pair = pair then { slot with compiled := some compiled } else slot := by
  rw [slot?, keep, List.find?_map]
  congr 2
  funext slot
  rw [Function.comp_apply]
  split <;> rfl

/-- The registrations of a registry, in the order of its slots. -/
def registrations (registry : Registry) : List Registration :=
  registry.slots.map (·.registration)

theorem registration?_eq_find? (registry : Registry) (pair : ShapePair) :
    registry.registration? pair = registry.registrations.find? (·.pair == pair) := by
  rw [registrations, List.find?_map]
  rfl

theorem registrations_keep (registry : Registry) (pair : ShapePair) (compiled : CompiledFilter) :
    (registry.keep pair compiled).registrations = registry.registrations := by
  rw [registrations, keep, List.map_map, registrations]
  refine List.map_congr_left fun slot _ => ?_
  rw [Function.comp_apply]
  split <;> rfl

theorem pairs_keep (registry : Registry) (pair : ShapePair) (compiled : CompiledFilter) :
    (registry.keep pair compiled).slots.map (·.pair) = registry.slots.map (·.pair) := by
  have ofRegistrations (registry : Registry) :
      registry.slots.map (·.pair) = registry.registrations.map (·.pair) := by
    rw [registrations, List.map_map]
    rfl
  rw [ofRegistrations, registrations_keep, ← ofRegistrations]

/-! An inquiry is answered in one of four ways. -/

inductive Answers (registry : Registry) (inquiry : Inquiry) : Answer → Prop where
  | held {outcome : Except FilterError CompiledFilter}
      (held : registry.held? inquiry.pair = some outcome) :
      Answers registry inquiry ⟨outcome, registry, []⟩
  | compiled {slot : Slot} (found : registry.slot? inquiry.pair = some slot)
      (fresh : slot.compiled = none) :
      Answers registry inquiry
        ⟨.ok slot.registration.compile, registry.keep inquiry.pair slot.registration.compile,
          [slot.registration.compileEvent]⟩
  | discovered {auto : AutoRegistry} (unregistered : registry.slot? inquiry.pair = none)
      (automatic : registry.auto = some auto) (fresh : auto.outcome? inquiry.pair = none) :
      Answers registry inquiry
        ⟨autoCompile inquiry.entityShape inquiry.filterShape auto.settings,
          { registry with auto := some { auto with outcomes := auto.outcomes ++
            [(inquiry.pair, autoCompile inquiry.entityShape inquiry.filterShape auto.settings)] } },
          autoCompileEvents inquiry.entityShape inquiry.filterShape auto.settings⟩
  | unknown (unregistered : registry.slot? inquiry.pair = none) (manual : registry.auto = none) :
      Answers registry inquiry
        ⟨.error (.notRegistered inquiry.pair), registry, [.notRegistered inquiry.pair]⟩

theorem answer_eq (registry : Registry) (inquiry : Inquiry) :
    registry.answer inquiry =
      match registry.slot? inquiry.pair with
      | some slot => registry.answerSlot slot
      | none =>
        match registry.auto with
        | some auto => registry.answerAuto auto inquiry.entityShape inquiry.filterShape
        | none => ⟨.error (.notRegistered inquiry.pair), registry,
          [.notRegistered inquiry.pair]⟩ := rfl

theorem answers (registry : Registry) (inquiry : Inquiry) :
    registry.Answers inquiry (registry.answer inquiry) := by
  rw [answer_eq]
  cases found : registry.slot? inquiry.pair with
  | some slot =>
      cases compiled : slot.compiled with
      | some filter =>
          have holds : registry.held? inquiry.pair = some (.ok filter) := by
            simp only [held?, found, compiled, Option.map_some]
          simp only [answerSlot, compiled]
          exact .held holds
      | none =>
          simp only [answerSlot, compiled, pair_of_slot? found]
          exact .compiled found compiled
  | none =>
      cases automatic : registry.auto with
      | none => exact .unknown found automatic
      | some auto =>
          have ofPair : inquiry.entityShape.pairWith inquiry.filterShape = inquiry.pair := rfl
          cases known : auto.outcome? inquiry.pair with
          | some outcome =>
              have holds : registry.held? inquiry.pair = some outcome := by
                rw [held?, found, automatic]
                exact known
              simp only [answerAuto, ofPair, known]
              exact .held holds
          | none =>
              simp only [answerAuto, ofPair, known]
              exact .discovered found automatic known

/-! What an answer leaves behind. -/

theorem Answers.registrations_eq (answered : registry.Answers inquiry answer) :
    answer.registry.registrations = registry.registrations := by
  cases answered with
  | compiled => exact registrations_keep _ _ _
  | _ => rfl

theorem Answers.registration?_eq (answered : registry.Answers inquiry answer) (pair : ShapePair) :
    answer.registry.registration? pair = registry.registration? pair := by
  rw [registration?_eq_find?, registration?_eq_find?, answered.registrations_eq]

theorem Answers.settings_eq (answered : registry.Answers inquiry answer) :
    answer.registry.auto.map (·.settings) = registry.auto.map (·.settings) := by
  cases answered with
  | discovered _ automatic => rw [automatic, Option.map_some, Option.map_some]
  | _ => rfl

/-- The answer is held from then on, unless the pair is unknown. -/
theorem Answers.held?_eq (answered : registry.Answers inquiry answer) :
    answer.registry.held? inquiry.pair = some answer.result ∨
      registry.registration? inquiry.pair = none ∧ registry.auto = none ∧
        answer = ⟨.error (.notRegistered inquiry.pair), registry,
          [.notRegistered inquiry.pair]⟩ := by
  cases answered with
  | held holds => exact Or.inl holds
  | compiled found =>
      left
      have ofPair := pair_of_slot? found
      simp [held?, slot?_keep, found, ofPair]
  | @discovered auto unregistered automatic fresh =>
      left
      have kept : registry.slot? inquiry.pair = none := unregistered
      simp only [held?, slot?] at kept ⊢
      rw [kept, Option.bind_some, AutoRegistry.outcome?_append, fresh, if_pos rfl]
      rfl
  | unknown unregistered manual =>
      right
      rw [registration?, unregistered]
      exact ⟨rfl, manual, rfl⟩

/-- Nothing else is held than before for another pair. -/
theorem Answers.held?_of_ne (answered : registry.Answers inquiry answer)
    (different : pair ≠ inquiry.pair) : answer.registry.held? pair = registry.held? pair := by
  cases answered with
  | compiled found =>
      rw [held?, slot?_keep, held?]
      cases present : registry.slot? pair with
      | none => rfl
      | some slot =>
          have other : slot.pair ≠ inquiry.pair := pair_of_slot? present ▸ different
          simp only [Option.map_some, if_neg other]
  | discovered unregistered automatic fresh =>
      simp only [held?, slot?, automatic, Option.bind_some, AutoRegistry.outcome?_append,
        if_neg different, Option.or_none]
  | _ => rfl

/-- What is held is the answer, and giving it changes nothing. -/
theorem answer_of_held? (holds : registry.held? inquiry.pair = some outcome) :
    registry.answer inquiry = ⟨outcome, registry, []⟩ := by
  have answered := registry.answers inquiry
  generalize registry.answer inquiry = answer at answered
  cases answered with
  | held same =>
      cases holds.symm.trans same
      rfl
  | compiled found fresh => simp [held?, found, fresh] at holds
  | discovered unregistered automatic fresh =>
      simp [held?, unregistered, automatic, fresh] at holds
  | unknown unregistered manual => simp [held?, unregistered, manual] at holds

/-- Whether a pair without a registration is discovered or unknown depends on the mode. -/
theorem answer_of_unregistered (unregistered : registry.registration? inquiry.pair = none) :
    registry.answer inquiry =
      match registry.auto with
      | some auto => registry.answerAuto auto inquiry.entityShape inquiry.filterShape
      | none => ⟨.error (.notRegistered inquiry.pair), registry,
        [.notRegistered inquiry.pair]⟩ := by
  have empty : registry.slot? inquiry.pair = none := Option.map_eq_none_iff.mp unregistered
  rw [answer_eq, empty]

theorem answer_of_unknown (unregistered : registry.registration? inquiry.pair = none)
    (manual : registry.auto = none) :
    registry.answer inquiry =
      ⟨.error (.notRegistered inquiry.pair), registry, [.notRegistered inquiry.pair]⟩ := by
  rw [answer_of_unregistered unregistered, manual]

/-! Runs of inquiries. -/

theorem after_append (registry : Registry) (inquiries more : List Inquiry) :
    registry.after (inquiries ++ more) = (registry.after inquiries).after more :=
  List.foldl_append

/-- What every answer preserves, a run of inquiries preserves. -/
theorem after_preserves {motive : Registry → Prop}
    (step : ∀ {registry : Registry} {inquiry : Inquiry} {answer : Answer},
      registry.Answers inquiry answer → motive registry → motive answer.registry)
    (start : motive registry) (inquiries : List Inquiry) : motive (registry.after inquiries) := by
  induction inquiries generalizing registry with
  | nil => exact start
  | cons inquiry rest ih => exact ih (step (registry.answers inquiry) start)

theorem registration?_after (registry : Registry) (inquiries : List Inquiry) (pair : ShapePair) :
    (registry.after inquiries).registration? pair = registry.registration? pair :=
  after_preserves (motive := fun later => later.registration? pair = registry.registration? pair)
    (fun answered same => (answered.registration?_eq pair).trans same) rfl inquiries

theorem settings_after (registry : Registry) (inquiries : List Inquiry) :
    (registry.after inquiries).auto.map (·.settings) = registry.auto.map (·.settings) :=
  after_preserves
    (motive := fun later => later.auto.map (·.settings) = registry.auto.map (·.settings))
    (fun answered same => answered.settings_eq.trans same) rfl inquiries

theorem held?_answer_of_some (holds : registry.held? pair = some outcome) (inquiry : Inquiry) :
    (registry.answer inquiry).registry.held? pair = some outcome := by
  by_cases same : pair = inquiry.pair
  · subst same
    rw [answer_of_held? holds]
    exact holds
  · exact ((registry.answers inquiry).held?_of_ne same).trans holds

/-- What is held stays so. -/
theorem held?_after_of_some (holds : registry.held? pair = some outcome)
    (inquiries : List Inquiry) : (registry.after inquiries).held? pair = some outcome := by
  induction inquiries generalizing registry with
  | nil => exact holds
  | cons inquiry rest ih => exact ih (held?_answer_of_some holds inquiry)

/-- Inquiries about other pairs leave what is held for a pair as it is. -/
theorem held?_after_of_ne (others : ∀ inquiry ∈ inquiries, inquiry.pair ≠ pair) :
    (registry.after inquiries).held? pair = registry.held? pair := by
  induction inquiries generalizing registry with
  | nil => rfl
  | cons inquiry rest ih =>
      rw [List.forall_mem_cons] at others
      have first := (registry.answers inquiry).held?_of_ne (Ne.symm others.1)
      exact (ih others.2).trans first

/-- An answer is repeated to every later inquiry about its pair. -/
theorem result_after {later : Inquiry} (ofPair : later.pair = inquiry.pair)
    (between : List Inquiry) :
    (((registry.answer inquiry).registry.after between).answer later).result =
      (registry.answer inquiry).result := by
  rcases (registry.answers inquiry).held?_eq with holds | ⟨unregistered, manual, unknown⟩
  · have kept := held?_after_of_some holds between
    rw [← ofPair] at kept
    rw [answer_of_held? kept]
  · have stays : (registry.after between).auto = none := by
      have same := registry.settings_after between
      rw [manual, Option.map_none, Option.map_eq_none_iff] at same
      exact same
    have still : (registry.after between).registration? later.pair = none := by
      rw [registration?_after, ofPair, unregistered]
    rw [unknown, answer_of_unknown still stays, ofPair]

/-! What holds of every registry. -/

/-- The slots have different pairs and hold only what their registrations compile to. An outcome is
kept once for a pair, and never for one that has a slot. -/
structure Sound (registry : Registry) : Prop where
  distinct : (registry.slots.map (·.pair)).Nodup
  faithful : ∀ pair slot, registry.slot? pair = some slot →
    ∀ compiled ∈ slot.compiled, compiled = slot.registration.compile
  once : ∀ auto ∈ registry.auto, (auto.outcomes.map (·.1)).Nodup
  apart : ∀ auto ∈ registry.auto, ∀ pair ∈ auto.outcomes.map (·.1),
    registry.registration? pair = none

theorem Answers.sound (answered : registry.Answers inquiry answer) (sound : registry.Sound) :
    answer.registry.Sound := by
  have unchanged := answered.registration?_eq
  cases answered with
  | held => exact sound
  | unknown => exact sound
  | @compiled slot found fresh =>
      constructor
      · rw [pairs_keep]
        exact sound.distinct
      · intro pair kept present compiled held
        rw [slot?_keep] at present
        obtain ⟨before, presentBefore, rfl⟩ := Option.map_eq_some_iff.mp present
        by_cases same : before.pair = inquiry.pair
        · have ofSlot : before = slot := by
            rw [← pair_of_slot? presentBefore, same, found] at presentBefore
            exact (Option.some.inj presentBefore).symm
          rw [if_pos same] at held ⊢
          rw [ofSlot]
          exact (Option.some.inj held).symm
        · rw [if_neg same] at held ⊢
          exact sound.faithful pair before presentBefore compiled held
      · exact sound.once
      · intro auto automatic pair known
        exact (unchanged pair).trans (sound.apart auto automatic pair known)
  | @discovered auto unregistered automatic fresh =>
      have absent : inquiry.pair ∉ auto.outcomes.map (·.1) := by
        intro known
        obtain ⟨entry, member, same⟩ := List.mem_map.mp known
        have missing := List.lookup_eq_none_iff.mp fresh entry member
        simp [same] at missing
      constructor
      · exact sound.distinct
      · exact sound.faithful
      · rintro _ ⟨⟩
        rw [List.map_append, List.map_singleton]
        exact (sound.once auto automatic).append (List.nodup_singleton _)
          (List.disjoint_singleton.mpr absent)
      · rintro _ ⟨⟩
        rw [List.map_append, List.forall_mem_append, List.map_singleton, List.forall_mem_singleton]
        refine ⟨sound.apart auto automatic, ?_⟩
        rw [registration?]
        exact Option.map_eq_none_iff.mpr unregistered

theorem Sound.after (sound : registry.Sound) (inquiries : List Inquiry) :
    (registry.after inquiries).Sound :=
  after_preserves Answers.sound sound inquiries

/-! What an inquiry is answered with for the first time. -/

/-- A registered pair is answered with its own filter. -/
theorem Sound.result_of_registered (sound : registry.Sound) {registration : Registration}
    (registered : registry.registration? inquiry.pair = some registration) :
    (registry.answer inquiry).result = .ok registration.compile := by
  obtain ⟨slot, found, rfl⟩ := Option.map_eq_some_iff.mp registered
  have answered := registry.answers inquiry
  generalize registry.answer inquiry = answer at answered
  cases answered with
  | held holds =>
      simp only [held?, found] at holds
      obtain ⟨compiled, kept, rfl⟩ := Option.map_eq_some_iff.mp holds
      rw [sound.faithful inquiry.pair slot found compiled kept]
  | compiled again =>
      cases found.symm.trans again
      rfl
  | discovered unregistered => nomatch found.symm.trans unregistered
  | unknown unregistered => nomatch found.symm.trans unregistered

theorem result_of_discovered {auto : AutoRegistry}
    (unregistered : registry.registration? inquiry.pair = none)
    (automatic : registry.auto = some auto) (fresh : registry.held? inquiry.pair = none) :
    (registry.answer inquiry).result =
      autoCompile inquiry.entityShape inquiry.filterShape auto.settings := by
  have empty : registry.slot? inquiry.pair = none := Option.map_eq_none_iff.mp unregistered
  have answered := registry.answers inquiry
  generalize registry.answer inquiry = answer at answered
  cases answered with
  | held holds => nomatch fresh.symm.trans holds
  | compiled found => nomatch empty.symm.trans found
  | discovered _ again =>
      cases automatic.symm.trans again
      rfl
  | unknown _ manual => nomatch automatic.symm.trans manual

end Registry

end RecordFilter
