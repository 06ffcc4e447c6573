import RecordFilter.Proofs.Atomicity
import RecordFilter.Proofs.Laziness

set_option autoImplicit false

/-!
Runs in which all calls succeed, without their order. Once the defaults for strings are settled,
what a call adds does not depend on the calls around it, and whether it is accepted depends on what
is taken and not on when. So such a run comes to what its calls resolve to and exclude, and all it
takes is that nothing is unknown and nothing is taken twice.
-/

namespace RecordFilter

/-- Whether new entries differ from each other and from the old ones. -/
def Fresh {α : Type} (old new : List α) : Prop := new.Nodup ∧ ∀ entry ∈ new, entry ∉ old

theorem fresh_nil {α : Type} (old : List α) : Fresh old [] := by
  simp [Fresh]

theorem fresh_toList_iff {α : Type} {old : List α} {new : Option α} :
    Fresh old new.toList ↔ ∀ entry ∈ new, entry ∉ old := by
  cases new <;> simp [Fresh]

theorem fresh_append_iff {α : Type} {old new more : List α} :
    Fresh old (new ++ more) ↔ Fresh old new ∧ Fresh (old ++ new) more := by
  simp only [Fresh, List.nodup_append', List.mem_append, not_or]
  constructor
  · rintro ⟨⟨newOnce, moreOnce, apart⟩, notOld⟩
    refine ⟨⟨newOnce, fun entry added => notOld entry (Or.inl added)⟩, moreOnce, ?_⟩
    intro entry added
    exact ⟨notOld entry (Or.inr added), fun among => apart among added⟩
  · rintro ⟨⟨newOnce, newFresh⟩, moreOnce, moreFresh⟩
    refine ⟨⟨newOnce, moreOnce, fun entry among added => (moreFresh entry added).2 among⟩, ?_⟩
    rintro entry (added | added)
    · exact newFresh entry added
    · exact (moreFresh entry added).1

theorem Fresh.perm {α : Type} {old new other : List α} (fresh : Fresh old new)
    (permuted : new.Perm other) : Fresh old other :=
  ⟨permuted.nodup_iff.mp fresh.1, fun entry added => fresh.2 entry (permuted.mem_iff.mpr added)⟩

namespace Call

attribute [simp] exclusion? settings? Configuration.resolved?

/-- Whether the call sets a default for declarations of strings. -/
def setsStrings : Call → Bool
  | stringComparison _ | defaultStringOp _ => true
  | _ => false

@[simp] def declares : Call → Bool
  | declare _ => true
  | _ => false

/-- The settings that a call leaves. -/
def settle (settings : Settings) (call : Call) : Settings := (call.settings? settings).getD settings

/-- What a declaration resolves to under the given settings. -/
@[simp] def binding? (entity filter : Shape) (settings : Settings) (call : Call) : Option Binding :=
  Configuration.resolved? { entity, filter, settings } call

def key? (entity filter : Shape) (settings : Settings) (call : Call) : Option BindingKey :=
  (call.binding? entity filter settings).bind (·.key?)

/-- The entity property that a call excludes. -/
@[simp] def excluded? : Call → Option String
  | excludeEntity name => some name
  | _ => none

variable {call : Call} {settings other : Settings}

theorem binding?_congr (entity filter : Shape)
    (same : call.declares = true → settings.eager = other.eager) :
    call.binding? entity filter settings = call.binding? entity filter other := by
  cases call with
  | declare declaration =>
      rw [binding?, binding?, Configuration.resolved?, Configuration.resolved?,
        ← declaration.resolve_eager, same rfl, declaration.resolve_eager]
  | _ => rfl

theorem settle_of_declares (declares : call.declares = true) (settings : Settings) :
    settle settings call = settings := by
  cases call with
  | declare declaration => rfl
  | _ => nomatch declares

theorem eager_settle (settings : Settings) (call : Call) :
    (settle settings call).eager =
      if call.setsStrings then settle settings.eager call else settings.eager := by
  cases call <;> rfl

/-- But for the laziness, the settings are made by the calls that set defaults for strings. -/
theorem eager_foldl_settle (settings : Settings) (calls : List Call) :
    (calls.foldl settle settings).eager =
      (calls.filter (·.setsStrings)).foldl settle settings.eager := by
  induction calls generalizing settings with
  | nil => rfl
  | cons call rest ih =>
      rw [List.foldl_cons, ih, eager_settle]
      cases sets : call.setsStrings with
      | false => simp [sets]
      | true => simp [sets]

end Call

/-- Whether defaults for strings are set only before all declarations. -/
def SettlesFirst (calls : List Call) : Prop :=
  calls.Pairwise fun earlier later => earlier.declares = true → later.setsStrings = false

namespace Configuration

variable {config next last : Configuration} {call : Call} {calls others more : List Call}
  {settings other : Settings}

/-- What it takes for calls to be accepted one after the other, said without their order: all
declarations resolve, all excluded properties exist, and nothing is taken that is taken before. -/
structure Permits (config : Configuration) (settings : Settings) (calls : List Call) : Prop where
  resolves : ∀ call ∈ calls, call.declares = true →
    (call.binding? config.entity config.filter settings).isSome = true
  keys : Fresh config.keys (calls.filterMap (·.key? config.entity config.filter settings))
  knownEntity : ∀ name ∈ calls.filterMap (·.excluded?), name ∈ config.entity.names
  freshEntity : Fresh config.entityExclusions (calls.filterMap (·.excluded?))
  knownFilter : ∀ name ∈ (calls.filterMap (·.exclusion?)).map (·.1), name ∈ config.filter.names
  freshFilter : Fresh (config.filterExclusions.map (·.1))
    ((calls.filterMap (·.exclusion?)).map (·.1))

/-- The configuration with what the calls add. -/
def extended (config : Configuration) (settings : Settings) (calls : List Call) :
    Configuration :=
  { config with
    settings := calls.foldl Call.settle config.settings
    bindings := config.bindings ++
      calls.filterMap (·.binding? config.entity config.filter settings)
    keys := config.keys ++ calls.filterMap (·.key? config.entity config.filter settings)
    entityExclusions := config.entityExclusions ++ calls.filterMap (·.excluded?)
    filterExclusions := config.filterExclusions ++ calls.filterMap (·.exclusion?) }

theorem permits_nil (config : Configuration) (settings : Settings) :
    config.Permits settings [] where
  resolves := by simp
  keys := fresh_nil _
  knownEntity := by simp
  freshEntity := fresh_nil _
  knownFilter := by simp
  freshFilter := fresh_nil _

theorem extended_nil (config : Configuration) (settings : Settings) :
    config.extended settings [] = config := by
  simp [extended]

theorem permits_append_iff :
    config.Permits settings (calls ++ more) ↔
      config.Permits settings calls ∧ (config.extended settings calls).Permits settings more := by
  constructor
  · rintro ⟨resolves, keys, knownEntity, freshEntity, knownFilter, freshFilter⟩
    simp only [List.filterMap_append, List.map_append, List.forall_mem_append,
      fresh_append_iff] at resolves keys knownEntity freshEntity knownFilter freshFilter
    refine ⟨⟨resolves.1, keys.1, knownEntity.1, freshEntity.1, knownFilter.1, freshFilter.1⟩,
      ⟨resolves.2, keys.2, knownEntity.2, freshEntity.2, knownFilter.2, ?_⟩⟩
    rw [extended, List.map_append]
    exact freshFilter.2
  · rintro ⟨first, rest⟩
    have freshFilter := rest.freshFilter
    rw [extended, List.map_append] at freshFilter
    constructor <;> simp only [List.filterMap_append, List.map_append, List.forall_mem_append,
      fresh_append_iff]
    · exact ⟨first.resolves, rest.resolves⟩
    · exact ⟨first.keys, rest.keys⟩
    · exact ⟨first.knownEntity, rest.knownEntity⟩
    · exact ⟨first.freshEntity, rest.freshEntity⟩
    · exact ⟨first.knownFilter, rest.knownFilter⟩
    · exact ⟨first.freshFilter, freshFilter⟩

theorem extended_append (config : Configuration) (settings : Settings) (calls more : List Call) :
    config.extended settings (calls ++ more) =
      (config.extended settings calls).extended settings more := by
  simp only [extended, List.filterMap_append, List.append_assoc, List.foldl_append]

/-! What is said of one call. -/

theorem permits_singleton_iff :
    config.Permits settings [call] ↔
      (call.declares = true →
        (call.binding? config.entity config.filter settings).isSome = true) ∧
      (∀ key ∈ call.key? config.entity config.filter settings, key ∉ config.keys) ∧
      (∀ name ∈ call.excluded?, name ∈ config.entity.names ∧ name ∉ config.entityExclusions) ∧
      ∀ entry ∈ call.exclusion?,
        entry.1 ∈ config.filter.names ∧ entry.1 ∉ config.filterExclusions.map (·.1) := by
  have entries : (call.exclusion?.toList.map (·.1)) = (call.exclusion?.map (·.1)).toList := by
    cases call.exclusion? <;> rfl
  constructor
  · rintro ⟨resolves, keys, knownEntity, freshEntity, knownFilter, freshFilter⟩
    simp only [List.filterMap_singleton, entries, fresh_toList_iff, Option.mem_toList] at *
    refine ⟨resolves call (List.mem_singleton_self call), keys, ?_, ?_⟩
    · exact fun name excluded => ⟨knownEntity name excluded, freshEntity name excluded⟩
    · intro entry excluded
      have named := Option.mem_map_of_mem (·.1) excluded
      exact ⟨knownFilter _ named, freshFilter _ named⟩
  · rintro ⟨resolves, keys, ofEntity, ofFilter⟩
    have named {name : String} (excluded : name ∈ call.exclusion?.map (·.1)) :
        name ∈ config.filter.names ∧ name ∉ config.filterExclusions.map (·.1) := by
      obtain ⟨entry, asked, rfl⟩ := Option.map_eq_some_iff.mp excluded
      exact ofFilter entry asked
    constructor <;> simp only [List.filterMap_singleton, entries, fresh_toList_iff,
      Option.mem_toList, List.forall_mem_singleton]
    · exact resolves
    · exact keys
    · exact fun name excluded => (ofEntity name excluded).1
    · exact fun name excluded => (ofEntity name excluded).2
    · exact fun name excluded => (named excluded).1
    · exact fun name excluded => (named excluded).2

/-- Settings that agree but for the laziness permit a call alike, and it adds the same. -/
theorem permits_singleton_congr (config : Configuration)
    (same : call.declares = true → settings.eager = other.eager) :
    (config.Permits settings [call] ↔ config.Permits other [call]) ∧
      config.extended settings [call] = config.extended other [call] := by
  have binding : call.binding? config.entity config.filter settings =
      call.binding? config.entity config.filter other := Call.binding?_congr _ _ same
  have key : call.key? config.entity config.filter settings =
      call.key? config.entity config.filter other := by
    rw [Call.key?, Call.key?, binding]
  constructor
  · rw [permits_singleton_iff, permits_singleton_iff, binding, key]
  · simp only [extended, List.filterMap_singleton, binding, key]

section Declaring

variable {declaration : Declaration} {binding : Binding}
  (resolved : declaration.resolve config.entity config.filter config.settings = .ok binding)

include resolved

theorem binding?_of_resolve :
    (Call.declare declaration).binding? config.entity config.filter config.settings =
      some binding := Except.toOption_eq_some_iff.mpr resolved

theorem key?_of_resolve :
    (Call.declare declaration).key? config.entity config.filter config.settings =
      binding.key? := by
  rw [Call.key?, binding?_of_resolve resolved, Option.bind_some]

theorem permits_declare_iff :
    config.Permits config.settings [.declare declaration] ↔
      ∀ key ∈ binding.key?, key ∉ config.keys := by
  rw [permits_singleton_iff, binding?_of_resolve resolved, key?_of_resolve resolved]
  simp

theorem extended_declare :
    config.extended config.settings [.declare declaration] =
      { config with
        bindings := config.bindings ++ [binding]
        keys := config.keys ++ binding.key?.toList } := by
  simp only [extended, List.filterMap_singleton, binding?_of_resolve resolved,
    key?_of_resolve resolved]
  simp [Call.settle]

end Declaring

theorem permits_excludeEntity_iff {name : String} :
    config.Permits settings [.excludeEntity name] ↔
      name ∈ config.entity.names ∧ name ∉ config.entityExclusions := by
  rw [permits_singleton_iff]
  simp [Call.key?]

theorem extended_excludeEntity (config : Configuration) (settings : Settings) (name : String) :
    config.extended settings [.excludeEntity name] =
      { config with entityExclusions := config.entityExclusions ++ [name] } := by
  simp [extended, Call.key?, Call.settle]

section Excluding

variable {name : String} {exclusion : Exclusion} (asked : call.exclusion? = some (name, exclusion))

include asked

theorem permits_iff_of_exclusion? :
    config.Permits settings [call] ↔
      name ∈ config.filter.names ∧ name ∉ config.filterExclusions.map (·.1) := by
  rw [permits_singleton_iff, asked]
  cases call with
  | excludeFilter | excludeFilterIf => simp [Call.key?]
  | _ => cases asked

theorem extended_of_exclusion? (config : Configuration) (settings : Settings) :
    config.extended settings [call] =
      { config with filterExclusions := config.filterExclusions ++ [(name, exclusion)] } := by
  simp only [extended, List.filterMap_singleton, asked]
  cases call with
  | excludeFilter | excludeFilterIf => simp [Call.key?, Call.settle]
  | _ => cases asked

end Excluding

section Adjusting

variable (asked : call.settings? config.settings = some other)

include asked

theorem permits_of_settings? (settings : Settings) : config.Permits settings [call] := by
  rw [permits_singleton_iff]
  cases call with
  | stringComparison | defaultStringOp | lazy => simp [Call.key?]
  | _ => cases asked

theorem extended_of_settings? (settings : Settings) :
    config.extended settings [call] = { config with settings := other } := by
  cases call with
  | stringComparison | defaultStringOp | lazy =>
      cases asked
      simp [extended, Call.key?, Call.settle]
  | _ => cases asked

end Adjusting

/-- A call is accepted if it is permitted, and then adds what it asks for. -/
theorem accepts_iff :
    config.Accepts call next ↔
      config.Permits config.settings [call] ∧ config.extended config.settings [call] = next := by
  constructor
  · intro accepted
    cases accepted with
    | declare resolved fresh =>
        exact ⟨(permits_declare_iff resolved).mpr fresh, extended_declare resolved⟩
    | excludeEntity known fresh =>
        exact ⟨permits_excludeEntity_iff.mpr ⟨known, fresh⟩, extended_excludeEntity _ _ _⟩
    | excludeFilter asked known fresh =>
        exact ⟨(permits_iff_of_exclusion? asked).mpr ⟨known, fresh⟩,
          extended_of_exclusion? asked _ _⟩
    | adjust asked => exact ⟨permits_of_settings? asked _, extended_of_settings? asked _⟩
  · rintro ⟨permitted, rfl⟩
    cases call with
    | declare declaration =>
        have isDeclared : Call.declare declaration ∈ [Call.declare declaration] :=
          List.mem_singleton_self _
        obtain ⟨binding, found⟩ :=
          Option.isSome_iff_exists.mp (permitted.resolves _ isDeclared rfl)
        have resolved : declaration.resolve config.entity config.filter config.settings =
            .ok binding := Except.toOption_eq_some_iff.mp found
        rw [extended_declare resolved]
        exact .declare resolved ((permits_declare_iff resolved).mp permitted)
    | excludeEntity name =>
        obtain ⟨known, fresh⟩ := permits_excludeEntity_iff.mp permitted
        rw [extended_excludeEntity]
        exact .excludeEntity known fresh
    | excludeFilter | excludeFilterIf =>
        obtain ⟨known, fresh⟩ := (permits_iff_of_exclusion? rfl).mp permitted
        rw [extended_of_exclusion? rfl]
        exact .excludeFilter rfl known fresh
    | stringComparison | defaultStringOp | lazy =>
        rw [extended_of_settings? rfl]
        exact .adjust rfl

/-! What is said of a run. -/

theorem reaches_cons_iff :
    config.Reaches (call :: calls) last ↔
      ∃ next, config.Accepts call next ∧ next.Reaches calls last := by
  constructor
  · intro reached
    cases reached with
    | step accepted rest => exact ⟨_, accepted, rest⟩
  · rintro ⟨next, accepted, rest⟩
    exact .step accepted rest

/-- A run in which all calls succeed, said without its order. -/
theorem reaches_iff (settles : SettlesFirst calls)
    (under : settings.eager = (calls.foldl Call.settle config.settings).eager) :
    config.Reaches calls last ↔
      config.Permits settings calls ∧ config.extended settings calls = last := by
  induction calls generalizing config with
  | nil =>
      rw [extended_nil, and_iff_right (config.permits_nil settings)]
      constructor
      · intro reached
        cases reached
        rfl
      · rintro rfl
        exact .refl config
  | cons call rest ih =>
      obtain ⟨behind, restSettles⟩ := List.pairwise_cons.mp settles
      have same : call.declares = true → config.settings.eager = settings.eager := by
        intro declares
        have none : rest.filter (·.setsStrings) = [] := by
          rw [List.filter_eq_nil_iff]
          intro later member
          rw [behind later member declares]
          exact Bool.false_ne_true
        rw [under, List.foldl_cons, Call.settle_of_declares declares, Call.eager_foldl_settle, none]
        rfl
      obtain ⟨permits, adds⟩ := config.permits_singleton_congr same
      have joined : call :: rest = [call] ++ rest := rfl
      rw [reaches_cons_iff, joined, permits_append_iff, extended_append, ← permits, ← adds,
        and_assoc]
      simp only [accepts_iff]
      constructor
      · rintro ⟨_, ⟨permitted, rfl⟩, reached⟩
        exact ⟨permitted, (ih restSettles under).mp reached⟩
      · rintro ⟨permitted, rest⟩
        exact ⟨_, ⟨permitted, rfl⟩, (ih restSettles under).mpr rest⟩

/-- Calls that succeed one after the other are accepted one after the other. -/
theorem foldlM_apply_eq_ok_iff :
    calls.foldlM apply config = .ok last ↔ config.Reaches calls last := by
  induction calls generalizing config with
  | nil =>
      rw [List.foldlM_nil, Except.pure_eq_ok_iff]
      constructor
      · rintro rfl
        exact .refl config
      · intro reached
        cases reached
        rfl
  | cons call rest ih => simp only [List.foldlM_cons, Except.bind_eq_ok_iff, apply_eq_ok_iff, ih,
      reaches_cons_iff]

theorem Permits.perm (permits : config.Permits settings calls) (permuted : calls.Perm others) :
    config.Permits settings others where
  resolves := fun call member => permits.resolves call (permuted.mem_iff.mpr member)
  keys := permits.keys.perm (permuted.filterMap _)
  knownEntity := fun name member =>
    permits.knownEntity name ((permuted.filterMap _).mem_iff.mpr member)
  freshEntity := permits.freshEntity.perm (permuted.filterMap _)
  knownFilter := fun name member =>
    permits.knownFilter name (((permuted.filterMap _).map _).mem_iff.mpr member)
  freshFilter := permits.freshFilter.perm ((permuted.filterMap _).map _)

end Configuration

end RecordFilter
