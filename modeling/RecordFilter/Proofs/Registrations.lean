import RecordFilter.Proofs.Exclusion

set_option autoImplicit false

/-!
Runs of attempts on a builder. An attempt on a new pair that finishes enters a registration, and any
other attempt changes nothing. What is registered for a pair depends on the attempts on that pair
alone, and of these on the first one that succeeds.
-/

namespace RecordFilter

namespace Attempt

def pair : Attempt → ShapePair
  | register entity filter | configure entity filter _ _ => entity.pairWith filter

/-- Whether the attempt goes on to finish its configuration. -/
def finishes : Attempt → Bool
  | register .. => true
  | configure _ _ _ finished => finished

/-- The configuration that an attempt makes under the settings of a builder. -/
def configuration (settings : Settings) : Attempt → Configuration
  | register entity filter => { entity, filter, settings }
  | configure entity filter calls _ => Configuration.run { entity, filter, settings } calls

/-- No call on a configuration changes the pair it is for. -/
theorem pair_of_finish {attempt : Attempt} {settings : Settings} {registration : Registration}
    (finished : (attempt.configuration settings).finish = .ok registration) :
    registration.pair = attempt.pair := by
  obtain ⟨-, same⟩ := Configuration.finish_eq_ok_iff.mp finished
  subst same
  cases attempt with
  | register entity filter => rfl
  | configure entity filter calls finished =>
      obtain ⟨sameEntity, sameFilter⟩ :=
        (Configuration.reaches_run { entity, filter, settings } calls).shapes_eq
      rw [Registration.pair, configuration, sameEntity, sameFilter]
      rfl

end Attempt

namespace Builder

/-- How an attempt on a builder can end, and the builder after it. -/
inductive Ends (builder : Builder) (attempt : Attempt) : Except FilterError Unit → Builder → Prop
    where
  | duplicate {registration : Registration}
      (taken : builder.find? attempt.pair = some registration) :
      Ends builder attempt (.error (.duplicateRegistration attempt.pair)) builder
  | dropped (new : builder.find? attempt.pair = none) (drops : attempt.finishes = false) :
      Ends builder attempt (.ok ()) builder
  | unfinished {reason : FilterError} (new : builder.find? attempt.pair = none)
      (finishes : attempt.finishes = true)
      (failed : (attempt.configuration builder.settings).finish = .error reason) :
      Ends builder attempt (.error reason) builder
  | entered {registration : Registration} (new : builder.find? attempt.pair = none)
      (finishes : attempt.finishes = true)
      (finished : (attempt.configuration builder.settings).finish = .ok registration) :
      Ends builder attempt (.ok ()) (builder.insert registration)

variable {builder next : Builder} {attempt : Attempt} {result : Except FilterError Unit}
  {pair : ShapePair}

/-- An attempt on a registered pair fails at once. Any other one is left or has its configuration
taken in. -/
theorem runOn_perform (builder : Builder) (attempt : Attempt) :
    (perform attempt).runOn builder =
      match builder.find? attempt.pair with
      | some _ => (.error (.duplicateRegistration attempt.pair), builder)
      | none =>
        if attempt.finishes then (enter (attempt.configuration builder.settings)).runOn builder
        else (.ok (), builder) := by
  cases attempt with
  | register entity filter =>
      cases found : builder.find? (entity.pairWith filter) <;>
        simp [perform, configure, isRegistered, found, Attempt.pair, Attempt.finishes,
          Attempt.configuration]
  | configure entity filter calls finished =>
      cases found : builder.find? (entity.pairWith filter) <;> cases finished <;>
        simp [perform, configure, isRegistered, found, Attempt.pair, Attempt.finishes,
          Attempt.configuration, Except.map]

theorem ends (builder : Builder) (attempt : Attempt) :
    builder.Ends attempt ((perform attempt).runOn builder).1 (builder.step attempt) := by
  rw [step, Update.stateAfter, runOn_perform]
  cases found : builder.find? attempt.pair with
  | some registration => exact .duplicate found
  | none =>
      cases goesOn : attempt.finishes with
      | false => exact .dropped found goesOn
      | true =>
          simp only [runOn_enter, if_true]
          cases finished : (attempt.configuration builder.settings).finish with
          | error reason => exact .unfinished found goesOn finished
          | ok registration => exact .entered found goesOn finished

/-! What an attempt leaves alone. -/

theorem Ends.settings_eq (ended : builder.Ends attempt result next) :
    next.settings = builder.settings := by
  cases ended <;> rfl

theorem Ends.find?_of_ne (ended : builder.Ends attempt result next)
    (different : pair ≠ attempt.pair) : next.find? pair = builder.find? pair := by
  cases ended with
  | entered new finishes finished =>
      exact find?_insert_of_ne (Attempt.pair_of_finish finished ▸ different)
  | _ => rfl

theorem Ends.find?_of_some (ended : builder.Ends attempt result next)
    {registration : Registration} (found : builder.find? pair = some registration) :
    next.find? pair = some registration := by
  by_cases same : pair = attempt.pair
  · subst same
    cases ended with
    | entered new => nomatch found.symm.trans new
    | _ => exact found
  · exact (ended.find?_of_ne same).trans found

/-- What every attempt preserves, a run preserves. -/
theorem run_preserves {motive : Builder → Prop}
    (step : ∀ {builder next : Builder} {attempt : Attempt} {result : Except FilterError Unit},
      builder.Ends attempt result next → motive builder → motive next)
    (start : motive builder) (attempts : List Attempt) : motive (builder.run attempts) := by
  induction attempts generalizing builder with
  | nil => exact start
  | cons attempt rest ih => exact ih (step (builder.ends attempt) start)

theorem settings_run (builder : Builder) (attempts : List Attempt) :
    (builder.run attempts).settings = builder.settings :=
  run_preserves (motive := fun later => later.settings = builder.settings)
    (fun ended same => ended.settings_eq.trans same) rfl attempts

/-- Once a pair is registered, it stays so and with the same registration. -/
theorem find?_run_of_some {registration : Registration}
    (found : builder.find? pair = some registration) (attempts : List Attempt) :
    (builder.run attempts).find? pair = some registration :=
  run_preserves (motive := fun later => later.find? pair = some registration)
    (fun ended found => ended.find?_of_some found) found attempts

theorem run_append (builder : Builder) (attempts more : List Attempt) :
    builder.run (attempts ++ more) = (builder.run attempts).run more :=
  List.foldl_append

/-! Attempts that succeed. -/

/-- Whether an attempt that goes on to finish its configuration succeeds. A configuration that is
dropped ends well, too, but registers nothing. -/
def Registers (builder : Builder) (attempt : Attempt) : Prop :=
  attempt.finishes = true ∧ ((perform attempt).runOn builder).1 = .ok ()

theorem registers_iff :
    builder.Registers attempt ↔ builder.find? attempt.pair = none ∧ attempt.finishes = true ∧
      ∃ registration, (attempt.configuration builder.settings).finish = .ok registration := by
  have ended := builder.ends attempt
  rw [Registers]
  generalize ((perform attempt).runOn builder).1 = result at ended ⊢
  generalize builder.step attempt = next at ended
  constructor
  · rintro ⟨goesOn, succeeded⟩
    cases ended with
    | duplicate => nomatch succeeded
    | unfinished => nomatch succeeded
    | dropped new drops => nomatch drops.symm.trans goesOn
    | entered new finishes finished => exact ⟨new, finishes, _, finished⟩
  · rintro ⟨new, goesOn, registration, finished⟩
    cases ended with
    | duplicate taken => nomatch taken.symm.trans new
    | unfinished _ _ failed => nomatch failed.symm.trans finished
    | dropped => exact ⟨goesOn, rfl⟩
    | entered => exact ⟨goesOn, rfl⟩

/-- An attempt that does not register its pair leaves the builder as it is. -/
theorem step_of_not_registers (fails : ¬ builder.Registers attempt) :
    builder.step attempt = builder := by
  have ended := builder.ends attempt
  generalize builder.step attempt = next at ended ⊢
  generalize ((perform attempt).runOn builder).1 = result at ended
  cases ended with
  | entered new finishes finished =>
      exact absurd (registers_iff.mpr ⟨new, finishes, _, finished⟩) fails
  | _ => rfl

theorem find?_step_of_registers (registers : builder.Registers attempt) :
    ∃ registration, (attempt.configuration builder.settings).finish = .ok registration ∧
      (builder.step attempt).find? attempt.pair = some registration := by
  obtain ⟨new, goesOn, registration, finished⟩ := registers_iff.mp registers
  have entered : builder.step attempt = builder.insert registration := by
    rw [step, Update.stateAfter, runOn_perform, new, goesOn, if_pos rfl, runOn_enter, finished]
  refine ⟨registration, finished, ?_⟩
  rw [entered, ← Attempt.pair_of_finish finished]
  exact find?_insert_self

/-- What an attempt registers stays, whatever comes behind it. -/
theorem find?_run_of_registers {before : List Attempt}
    (registers : (builder.run before).Registers attempt) (after : List Attempt) :
    ∃ registration, (attempt.configuration builder.settings).finish = .ok registration ∧
      (builder.run (before ++ attempt :: after)).find? attempt.pair = some registration := by
  obtain ⟨registration, finished, found⟩ := find?_step_of_registers registers
  rw [settings_run] at finished
  refine ⟨registration, finished, ?_⟩
  rw [run_append]
  exact find?_run_of_some found after

/-- A pair on which no attempt succeeds is registered no more than before. -/
theorem find?_run_of_not_registers {attempts : List Attempt}
    (fails : ∀ before attempt after, attempts = before ++ attempt :: after → attempt.pair = pair →
      ¬ (builder.run before).Registers attempt) :
    (builder.run attempts).find? pair = builder.find? pair := by
  induction attempts generalizing builder with
  | nil => rfl
  | cons attempt rest ih =>
      rw [run, List.foldl_cons, ← run]
      have kept : (builder.step attempt).find? pair = builder.find? pair := by
        by_cases same : attempt.pair = pair
        · have first : ¬ builder.Registers attempt := fails [] attempt rest rfl same
          rw [step_of_not_registers first]
        · exact (builder.ends attempt).find?_of_ne (Ne.symm same)
      rw [ih, kept]
      intro before other after split ofPair
      exact fails (attempt :: before) other after (congrArg (attempt :: ·) split) ofPair

/-! Attempts on one pair see the registrations of no other. -/

/-- Whether two builders look the same to attempts on a pair. -/
def AgreeOn (pair : ShapePair) (left right : Builder) : Prop :=
  left.settings = right.settings ∧ left.find? pair = right.find? pair

variable {left right : Builder}

theorem AgreeOn.runOn_perform (agree : AgreeOn attempt.pair left right) :
    ((perform attempt).runOn left).1 = ((perform attempt).runOn right).1 ∧
      AgreeOn attempt.pair (left.step attempt) (right.step attempt) := by
  obtain ⟨sameSettings, sameEntry⟩ := agree
  have settings : (left.step attempt).settings = (right.step attempt).settings := by
    rw [(left.ends attempt).settings_eq, (right.ends attempt).settings_eq, sameSettings]
  rw [AgreeOn, and_iff_right settings, step, step, Update.stateAfter, Update.stateAfter,
    Builder.runOn_perform, Builder.runOn_perform, sameEntry, sameSettings]
  cases found : right.find? attempt.pair with
  | some registration => exact ⟨rfl, sameEntry⟩
  | none =>
      cases attempt.finishes with
      | false => exact ⟨rfl, sameEntry⟩
      | true =>
          simp only [runOn_enter, if_true]
          cases finished : (attempt.configuration right.settings).finish with
          | error reason => exact ⟨rfl, sameEntry⟩
          | ok registration =>
              rw [← Attempt.pair_of_finish finished]
              exact ⟨rfl, find?_insert_self.trans find?_insert_self.symm⟩

/-- A run is for a pair the run of the attempts on that pair. -/
theorem agreeOn_run (agree : AgreeOn pair left right) (attempts : List Attempt) :
    AgreeOn pair (left.run attempts) (right.run (attempts.filter (·.pair = pair))) := by
  induction attempts generalizing left right with
  | nil => exact agree
  | cons attempt rest ih =>
      by_cases same : attempt.pair = pair
      · subst same
        rw [List.filter_cons_of_pos (by simp), run, run, List.foldl_cons, List.foldl_cons]
        exact ih agree.runOn_perform.2
      · rw [List.filter_cons_of_neg (by simpa using same), run, List.foldl_cons]
        apply ih
        have ended := left.ends attempt
        exact ⟨ended.settings_eq.trans agree.1,
          (ended.find?_of_ne (Ne.symm same)).trans agree.2⟩

/-! A pair has one registration. -/

theorem nodup_pairs_insert {registration : Registration}
    (distinct : (builder.registrations.map (·.pair)).Nodup) :
    ((builder.insert registration).registrations.map (·.pair)).Nodup := by
  have replaced : registration.pair ∉
      (builder.registrations.filter (·.pair != registration.pair)).map (·.pair) := by
    intro kept
    obtain ⟨earlier, member, same⟩ := List.mem_map.mp kept
    have different := (List.mem_filter.mp member).2
    simp [same] at different
  rw [insert, List.map_append, List.map_singleton]
  exact (distinct.sublist (List.filter_sublist.map _)).append (List.nodup_singleton _)
    (List.disjoint_singleton.mpr replaced)

theorem nodup_pairs_run (distinct : (builder.registrations.map (·.pair)).Nodup)
    (attempts : List Attempt) : ((builder.run attempts).registrations.map (·.pair)).Nodup := by
  apply run_preserves (motive := fun later => (later.registrations.map (·.pair)).Nodup) _ distinct
  intro builder next attempt result ended distinct
  cases ended with
  | entered => exact nodup_pairs_insert distinct
  | _ => exact distinct

end Builder

/-- Registrations are independent, and the first attempt on a pair that succeeds wins. Whatever runs
before it and behind it, what it registers is what it registers alone with a builder of the same
settings, and every later attempt on the pair fails as a duplicate. A pair without an attempt that
succeeds is not registered. An attempt that fails or is dropped leaves the builder as it is, and
none changes the settings, whatever the calls on its configuration, or the registration of another
pair. So to attempts on a pair, a run looks the same as the run of the earlier attempts on it. -/
theorem registrations_are_independent (settings : Settings) :
    (∀ attempts, ((Builder.withSettings settings).run attempts).settings = settings) ∧
    (∀ before attempt, ((Builder.withSettings settings).run before).Registers attempt →
      (∀ after, ∃ registration,
        ((Builder.withSettings settings).run (before ++ attempt :: after)).find? attempt.pair =
          some registration ∧
        ((Builder.withSettings settings).run [attempt]).find? attempt.pair = some registration) ∧
      ∀ between later builder, later.pair = attempt.pair →
        (Builder.withSettings settings).run (before ++ attempt :: between) = builder →
        (Builder.perform later).runOn builder =
          (.error (.duplicateRegistration attempt.pair), builder)) ∧
    (∀ attempts pair,
      (∀ before attempt after, attempts = before ++ attempt :: after → attempt.pair = pair →
        ¬ ((Builder.withSettings settings).run before).Registers attempt) →
      ((Builder.withSettings settings).run attempts).find? pair = none) ∧
    ∀ attempts builder, (Builder.withSettings settings).run attempts = builder →
      ∀ attempt,
        (¬ builder.Registers attempt → builder.step attempt = builder) ∧
        (∀ pair, pair ≠ attempt.pair →
          (builder.step attempt).find? pair = builder.find? pair) ∧
        ∀ alone, (Builder.withSettings settings).run
            (attempts.filter (·.pair = attempt.pair)) = alone →
          builder.find? attempt.pair = alone.find? attempt.pair ∧
          ((Builder.perform attempt).runOn builder).1 =
            ((Builder.perform attempt).runOn alone).1 := by
  refine ⟨fun attempts => Builder.settings_run _ attempts, ?_, ?_, ?_⟩
  · intro before attempt registers
    constructor
    · intro after
      obtain ⟨registration, finished, found⟩ := Builder.find?_run_of_registers registers after
      have alone : (Builder.withSettings settings).Registers attempt :=
        Builder.registers_iff.mpr ⟨rfl, registers.1, registration, finished⟩
      obtain ⟨same, finishedAlone, foundAlone⟩ := Builder.find?_step_of_registers alone
      cases finished.symm.trans finishedAlone
      exact ⟨registration, found, foundAlone⟩
    · intro between later builder ofPair reached
      obtain ⟨registration, -, found⟩ := Builder.find?_run_of_registers registers between
      rw [reached] at found
      rw [Builder.runOn_perform, ofPair, found]
  · intro attempts pair fails
    exact Builder.find?_run_of_not_registers fails
  · intro attempts builder reached attempt
    refine ⟨Builder.step_of_not_registers,
      fun pair different => (builder.ends attempt).find?_of_ne different, ?_⟩
    intro alone reachedAlone
    have agree : Builder.AgreeOn attempt.pair builder alone := by
      rw [← reached, ← reachedAlone]
      exact Builder.agreeOn_run ⟨rfl, rfl⟩ attempts
    exact ⟨agree.2, agree.runOn_perform.1⟩

/-- Books are configured in vain, then lazily and with another operator for their names. -/
def droppedBooks : Attempt := .configure bookShape bookFilterShape bookCalls false

def lazyBooks : Attempt :=
  .configure bookShape bookFilterShape [.lazy true, .defaultStringOp .contains] true

/-- Books that are asked for by books. -/
def otherBooks : Attempt := .register bookShape bookShape

theorem registrations_are_independent_books :
    ((Builder.withSettings {}).run [droppedBooks]).Registers lazyBooks ∧
      (∃ registration,
        ((Builder.withSettings {}).run [droppedBooks, lazyBooks, otherBooks]).find?
          ⟨"Book", "BookFilter"⟩ = some registration ∧
        ((Builder.withSettings {}).run [lazyBooks]).find? ⟨"Book", "BookFilter"⟩ =
          some registration ∧
        registration.lazy = true) ∧
      (∀ builder, (Builder.withSettings {}).run [droppedBooks, lazyBooks, otherBooks] = builder →
        (Builder.perform (.register bookShape bookFilterShape)).runOn builder =
          (.error (.duplicateRegistration ⟨"Book", "BookFilter"⟩), builder)) ∧
      ((Builder.withSettings {}).run [droppedBooks]).find? ⟨"Book", "BookFilter"⟩ = none := by
  have registers : ((Builder.withSettings {}).run [droppedBooks]).Registers lazyBooks :=
    ⟨rfl, rfl⟩
  obtain ⟨-, first, absent, -⟩ := registrations_are_independent {}
  obtain ⟨wins, duplicate⟩ := first [droppedBooks] lazyBooks registers
  obtain ⟨registration, found, alone⟩ := wins [otherBooks]
  have isLazy : registration.lazy = true := by
    obtain rfl : _ = registration := Option.some.inj alone
    rfl
  refine ⟨registers, ⟨registration, found, alone, isLazy⟩, ?_, ?_⟩
  · intro builder reached
    exact duplicate [otherBooks] (.register bookShape bookFilterShape) builder rfl reached
  · apply absent
    intro before attempt after split _ succeeds
    cases before with
    | nil =>
        cases split
        nomatch succeeds.1
    | cons earlier rest =>
        have none : rest ++ attempt :: after = [] := (List.cons.inj split).2.symm
        simp at none

end RecordFilter
