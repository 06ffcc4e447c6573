import RecordFilter.Binding.Compiled
import RecordFilter.Builder

set_option autoImplicit false

/-!
Registries answer for pairs of shapes with their compiled filters. Every filter is compiled at most
once: at the start, or for lazy registrations on the first request. In auto-register mode a pair
nobody registered is discovered on its first request, and the outcome is kept, a failure too.
-/

namespace RecordFilter

/-- A registration and its filter, once it is compiled. -/
structure Slot where
  registration : Registration
  compiled : Option CompiledFilter

/-- The outcomes of the pairs discovered on request. -/
structure AutoRegistry where
  settings : Settings
  outcomes : List (ShapePair × Except FilterError CompiledFilter) := []

structure Registry where
  slots : List Slot
  auto : Option AutoRegistry

/-- The answer to a request, the registry after it, and what was reported. -/
structure Answer where
  result : Except FilterError CompiledFilter
  registry : Registry
  events : List Event

/-- What a registry is asked for: the filter of a pair, or the predicate for a filter record. -/
inductive Inquiry where
  | filter (entity filter : Shape)
  | predicate (entity : Shape) (filter : Record)

namespace Inquiry

def entityShape : Inquiry → Shape
  | filter entity _ | predicate entity _ => entity

def filterShape : Inquiry → Shape
  | filter _ shape => shape
  | predicate _ record => record.shape

def pair (inquiry : Inquiry) : ShapePair := inquiry.entityShape.pairWith inquiry.filterShape

end Inquiry

namespace Registration

def compile (registration : Registration) : CompiledFilter :=
  .compile registration.entity registration.filter registration.bindings

def compileEvent (registration : Registration) : Event :=
  .compile registration.pair registration.bindings.length

end Registration

namespace Slot

def ofRegistration (registration : Registration) : Slot :=
  ⟨registration, if registration.lazy then none else some registration.compile⟩

def pair (slot : Slot) : ShapePair := slot.registration.pair

end Slot

/-- Discovers and compiles a pair under the given settings. -/
def autoCompile (entity filter : Shape) (settings : Settings) :
    Except FilterError CompiledFilter := do
  let findings := discover entity filter [] [] settings
  requireBindings [] findings (entity.pairWith filter)
  return .compile entity filter (discoveredBindings findings)

/-- What discovering and compiling a pair is reported as. -/
def autoCompileEvents (entity filter : Shape) (settings : Settings) : List Event :=
  let pair := entity.pairWith filter
  (discover entity filter [] [] settings).map (·.event pair) ++
    match autoCompile entity filter settings with
    | .ok compiled =>
      [.autoRegister pair compiled.bindings.length, .compile pair compiled.bindings.length]
    | .error _ => []

namespace AutoRegistry

def outcome? (auto : AutoRegistry) (pair : ShapePair) :
    Option (Except FilterError CompiledFilter) :=
  auto.outcomes.lookup pair

/-- Whether a pair was discovered with success. -/
def contains (auto : AutoRegistry) (pair : ShapePair) : Bool :=
  (auto.outcome? pair).any (·.isOk)

/-- The number of pairs discovered with success. -/
def size (auto : AutoRegistry) : Nat := auto.outcomes.countP (·.2.isOk)

end AutoRegistry

namespace Registry

/-- The registry of all registrations of a builder. -/
def ofBuilder (builder : Builder) : Registry where
  slots := builder.registrations.map Slot.ofRegistration
  auto := if builder.settings.autoRegister then some { settings := builder.settings } else none

/-- What building a registry is reported as. -/
def buildEvents (builder : Builder) : List Event :=
  (builder.registrations.filter (!·.lazy)).map (·.compileEvent) ++
    [.build builder.registrations.length builder.settings.autoRegister]

def slot? (registry : Registry) (pair : ShapePair) : Option Slot :=
  registry.slots.find? (·.pair == pair)

/-- Keeps a compiled filter with its registration. -/
def keep (registry : Registry) (pair : ShapePair) (compiled : CompiledFilter) : Registry :=
  { registry with
    slots := registry.slots.map fun slot =>
      if slot.pair = pair then { slot with compiled := some compiled } else slot }

/-- Answers for an explicit registration. -/
def answerSlot (registry : Registry) (slot : Slot) : Answer :=
  match slot.compiled with
  | some compiled => ⟨.ok compiled, registry, []⟩
  | none =>
    let compiled := slot.registration.compile
    ⟨.ok compiled, registry.keep slot.pair compiled, [slot.registration.compileEvent]⟩

/-- Answers for a pair without a registration in auto-register mode. -/
def answerAuto (registry : Registry) (auto : AutoRegistry) (entity filter : Shape) : Answer :=
  let pair := entity.pairWith filter
  match auto.outcome? pair with
  | some outcome => ⟨outcome, registry, []⟩
  | none =>
    let outcome := autoCompile entity filter auto.settings
    ⟨outcome,
      { registry with auto := some { auto with outcomes := auto.outcomes ++ [(pair, outcome)] } },
      autoCompileEvents entity filter auto.settings⟩

/-- Asks for the filter of a pair. -/
def request (registry : Registry) (entity filter : Shape) : Answer :=
  let pair := entity.pairWith filter
  match registry.slot? pair with
  | some slot => registry.answerSlot slot
  | none =>
    match registry.auto with
    | some auto => registry.answerAuto auto entity filter
    | none => ⟨.error (.notRegistered pair), registry, [.notRegistered pair]⟩

/-- The predicate for a filter record, from the filter for its shape. -/
def predicate (registry : Registry) (entity : Shape) (filter : Record) :
    Except FilterError Predicate := do
  let compiled ← (registry.request entity filter.shape).result
  compiled.predicate filter

/-- The answer to an inquiry. -/
def answer (registry : Registry) (inquiry : Inquiry) : Answer :=
  registry.request inquiry.entityShape inquiry.filterShape

/-- The registry after inquiries. -/
def after (registry : Registry) (inquiries : List Inquiry) : Registry :=
  inquiries.foldl (fun current inquiry => (current.answer inquiry).registry) registry

/-- What is reported while inquiries are answered. -/
def log (registry : Registry) : List Inquiry → List Event
  | [] => []
  | inquiry :: rest =>
    let answer := registry.answer inquiry
    answer.events ++ answer.registry.log rest

def isAutoRegister (registry : Registry) : Bool := registry.auto.isSome

/-- Whether a pair is registered or was discovered with success. -/
def contains (registry : Registry) (entity filter : Shape) : Bool :=
  let pair := entity.pairWith filter
  (registry.slot? pair).isSome || registry.auto.any (·.contains pair)

def size (registry : Registry) : Nat :=
  registry.slots.length + registry.auto.elim 0 (·.size)

/-- Whether the filter of a pair is compiled. -/
def isCompiled (registry : Registry) (entity filter : Shape) : Bool :=
  let pair := entity.pairWith filter
  match registry.slot? pair with
  | some slot => slot.compiled.isSome
  | none => registry.auto.any (·.contains pair)

end Registry

end RecordFilter
