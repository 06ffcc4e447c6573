import RecordFilter.Discovery
import RecordFilter.Event
import RecordFilter.Update

set_option autoImplicit false

/-!
The configuration of one pair of shapes. A call writes to it, or fails and gives the reason.
Finishing adds the discovered bindings behind the declared ones and attaches the conditional
exclusions to every binding that reads the excluded property.
-/

namespace RecordFilter

/-- How a filter property is kept out. -/
inductive Exclusion where
  /-- Out of discovery. -/
  | always
  /-- Out of the predicate for filter records where the condition holds. -/
  | when (condition : FilterCondition)

/-- Whether an exclusion takes a property out of discovery. -/
def Exclusion.isAlways : Exclusion → Bool
  | always => true
  | when _ => false

/-- A registration that is complete but not compiled. -/
structure Registration where
  entity : Shape
  filter : Shape
  bindings : List Binding
  lazy : Bool

def Registration.pair (registration : Registration) : ShapePair :=
  registration.entity.pairWith registration.filter

structure Configuration where
  entity : Shape
  filter : Shape
  settings : Settings
  bindings : List Binding := []
  /-- The keys taken by the bindings so far. -/
  keys : List BindingKey := []
  entityExclusions : List String := []
  filterExclusions : List (String × Exclusion) := []

/-- A call on a configuration. -/
inductive Call where
  | declare (declaration : Declaration)
  | excludeEntity (property : String)
  | excludeFilter (property : String)
  | excludeFilterIf (property : String) (condition : FilterCondition)
  | stringComparison (comparison : StringComparison)
  | defaultStringOp (op : StringOp)
  | lazy (lazy : Bool)

namespace Configuration

def pair (config : Configuration) : ShapePair := config.entity.pairWith config.filter

/-- Resolves a declaration and adds its binding, unless its key is taken. -/
def declare (declaration : Declaration) : Update Configuration Unit := do
  let config ← get
  let binding ← liftExcept (declaration.resolve config.entity config.filter config.settings)
  if let some key := binding.key? then
    if config.keys.contains key then throw (.duplicateBinding config.pair key.text)
    modify fun config => { config with keys := config.keys ++ [key] }
  modify fun config => { config with bindings := config.bindings ++ [binding] }

/-- Keeps an entity property out of discovery. -/
def excludeEntity (name : String) : Update Configuration Unit := do
  let config ← get
  let property ← liftExcept (config.entity.property name)
  if config.entityExclusions.contains property.name then
    throw (.duplicateExclusion config.entity.name name)
  modify fun config =>
    { config with entityExclusions := config.entityExclusions ++ [property.name] }

/-- Keeps a filter property out, always or by a condition. It can be kept out only once. -/
def excludeFilter (name : String) (exclusion : Exclusion) : Update Configuration Unit := do
  let config ← get
  let property ← liftExcept (config.filter.property name)
  if (config.filterExclusions.lookup property.name).isSome then
    throw (.duplicateExclusion config.filter.name name)
  modify fun config =>
    { config with filterExclusions := config.filterExclusions ++ [(property.name, exclusion)] }

/-- What a call does. -/
def perform : Call → Update Configuration Unit
  | .declare declaration => declare declaration
  | .excludeEntity name => excludeEntity name
  | .excludeFilter name => excludeFilter name .always
  | .excludeFilterIf name condition => excludeFilter name (.when condition)
  | .stringComparison comparison => modify fun config =>
    { config with settings := { config.settings with stringComparison := comparison } }
  | .defaultStringOp op => modify fun config =>
    { config with settings := { config.settings with defaultStringOp := op } }
  | .lazy lazy => modify fun config =>
    { config with settings := { config.settings with lazy } }

/-- The configuration after a call that succeeds. -/
def apply (config : Configuration) (call : Call) : Except FilterError Configuration :=
  (perform call).outcome config

/-- The configuration after a call, whether it succeeds or fails. -/
def step (config : Configuration) (call : Call) : Configuration :=
  (perform call).stateAfter config

/-- The configuration after calls of which any may fail. -/
def run (config : Configuration) (calls : List Call) : Configuration := calls.foldl step config

/-- The entity properties that discovery leaves alone: excluded or bound ones. -/
def claimedEntity (config : Configuration) : List String :=
  config.entityExclusions ++
    config.bindings.flatMap fun binding => binding.entityFields.map config.entity.nameAt

/-- The filter properties that discovery leaves alone. -/
def claimedFilter (config : Configuration) : List String :=
  (config.filterExclusions.filter (·.2.isAlways)).map (·.1) ++
    config.bindings.flatMap fun binding => binding.filterFields.map config.filter.nameAt

def findings (config : Configuration) : List Finding :=
  discover config.entity config.filter config.claimedEntity config.claimedFilter config.settings

/-- The condition under which a filter property is excluded. -/
def exclusionCondition? (config : Configuration) (index : Nat) : Option FilterCondition :=
  match config.filterExclusions.lookup (config.filter.nameAt index) with
  | some (.when condition) => some condition
  | _ => none

/-- The binding with the conditions of all filter properties it reads. -/
def withExclusions (config : Configuration) (binding : Binding) : Binding :=
  binding.excludedWhen (binding.filterFields.filterMap config.exclusionCondition?)

/-- The finished registration: the declared bindings and behind them the discovered ones. -/
def finish (config : Configuration) : Except FilterError Registration := do
  requireBindings config.bindings config.findings config.pair
  return {
    entity := config.entity
    filter := config.filter
    bindings := (config.bindings ++ discoveredBindings config.findings).map config.withExclusions
    lazy := config.settings.lazy }

/-- What an accepted call is reported as, given the configuration after it. -/
def callEvents (accepted : Configuration) : Call → List Event
  | .declare _ => (accepted.bindings.getLast?.map fun b => .binding accepted.pair b.label).toList
  | _ => []

end Configuration

/-- What a finding is reported as. -/
def Finding.event (pair : ShapePair) : Finding → Event
  | bound binding => .autoDiscovery pair binding.label
  | skipped entity filter => .bindingSkipped pair filter.name entity.type filter.type

/-- What finishing is reported as, whether it succeeds or not. -/
def Configuration.finishEvents (config : Configuration) : List Event :=
  config.findings.map (·.event config.pair) ++
    match config.finish with
    | .ok registration =>
      [.registration config.pair config.bindings.length
        (registration.bindings.length - config.bindings.length) registration.lazy]
    | .error _ => []

end RecordFilter
