import RecordFilter.Configuration

set_option autoImplicit false

/-!
Builders collect registrations. A pair of shapes, known by their names, is registered at most once;
a configuration that is dropped or fails to finish leaves no trace.
-/

namespace RecordFilter

structure Builder where
  settings : Settings := {}
  registrations : List Registration := []

/-- One attempt to register a pair. -/
inductive Attempt where
  /-- With discovered bindings only. -/
  | register (entity filter : Shape)
  /-- With calls on its configuration, which is then finished or dropped. -/
  | configure (entity filter : Shape) (calls : List Call) (finished : Bool)

namespace Builder

/-- A builder without registrations, whose configurations start from the settings. -/
def withSettings (settings : Settings) : Builder := { settings }

def find? (builder : Builder) (pair : ShapePair) : Option Registration :=
  builder.registrations.find? (·.pair == pair)

def isRegistered (builder : Builder) (entity filter : Shape) : Bool :=
  (builder.find? (entity.pairWith filter)).isSome

/-- Starts the configuration of a pair that is not registered. -/
def configure (builder : Builder) (entity filter : Shape) : Except FilterError Configuration :=
  if builder.isRegistered entity filter then
    .error (.duplicateRegistration (entity.pairWith filter))
  else .ok { entity, filter, settings := builder.settings }

/-- Enters a registration, in the place of an earlier one for the pair. -/
def insert (builder : Builder) (registration : Registration) : Builder :=
  { builder with
    registrations := builder.registrations.filter (·.pair != registration.pair) ++ [registration] }

/-- Takes in a finished configuration. -/
def enter (config : Configuration) : Update Builder Unit := do
  let registration ← liftExcept config.finish
  modify (·.insert registration)

/-- What an attempt does. The calls are made on the configuration alone. -/
def perform : Attempt → Update Builder Unit
  | .register entity filter => do
    let builder ← get
    let config ← liftExcept (builder.configure entity filter)
    enter config
  | .configure entity filter calls finished => do
    let builder ← get
    let config ← liftExcept (builder.configure entity filter)
    if finished then enter (config.run calls)

/-- The builder with a finished configuration. -/
def finish (builder : Builder) (config : Configuration) : Except FilterError Builder :=
  (enter config).outcome builder

/-- The builder after an attempt that succeeds. -/
def attempt (builder : Builder) (attempt : Attempt) : Except FilterError Builder :=
  (perform attempt).outcome builder

/-- Registers a pair with discovered bindings only. -/
def register (builder : Builder) (entity filter : Shape) : Except FilterError Builder :=
  builder.attempt (.register entity filter)

/-- The builder after an attempt, whether it succeeds or fails. -/
def step (builder : Builder) (attempt : Attempt) : Builder :=
  (perform attempt).stateAfter builder

def run (builder : Builder) (attempts : List Attempt) : Builder := attempts.foldl step builder

end Builder

end RecordFilter
