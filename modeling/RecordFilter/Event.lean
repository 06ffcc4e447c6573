import RecordFilter.Error

set_option autoImplicit false

/-!
What a builder and a registry report while they work. An event has a target, which says where it is
reported, a level, which says how much detail it is, and fields, which are recorded by name for
whoever listens.
-/

namespace RecordFilter

/-- How important an event is, from errors down to traces. -/
inductive Level where
  | error | warn | info | debug | trace
  deriving DecidableEq, Repr

namespace Level

/-- The amount of detail, least for errors. -/
def detail : Level → Nat
  | error => 0
  | warn => 1
  | info => 2
  | debug => 3
  | trace => 4

/-- Whether events of a level pass when the given level is the most detailed one let through. -/
def passes (level limit : Level) : Bool := level.detail ≤ limit.detail

end Level

/-- A value recorded under a field's name. -/
inductive FieldValue where
  /-- Text as it is. -/
  | text (s : String)
  /-- The text of some other value. -/
  | shown (s : String)
  | count (n : Nat)
  | signed (n : Int)
  | flag (b : Bool)
  deriving DecidableEq, Repr

inductive Event where
  | registration (pair : ShapePair) (explicit discovered : Nat) (lazy : Bool)
  | binding (pair : ShapePair) (label : String)
  | autoDiscovery (pair : ShapePair) (label : String)
  | bindingSkipped (pair : ShapePair) (property : String) (entityType filterType : ValueType)
  | compile (pair : ShapePair) (bindings : Nat)
  | build (registrations : Nat) (autoRegister : Bool)
  | autoRegister (pair : ShapePair) (bindings : Nat)
  | notRegistered (pair : ShapePair)
  deriving DecidableEq, Repr

namespace Event

/-- The part of the program that reports an event. -/
def target : Event → String
  | registration .. | binding .. => "filterforge_registry::builder"
  | autoDiscovery .. | bindingSkipped .. => "filterforge_registry::discovery"
  | compile .. => "filterforge_predicate::compile"
  | build .. | autoRegister .. | notRegistered .. => "filterforge_registry::registry"

def level : Event → Level
  | registration .. | build .. | autoRegister .. => .info
  | binding .. | autoDiscovery .. | compile .. | notRegistered .. => .debug
  | bindingSkipped .. => .trace

def pairFields (pair : ShapePair) : List (String × FieldValue) :=
  [("entity", .shown pair.entity), ("filter", .shown pair.filter)]

/-- The fields an event is recorded as. -/
def fields : Event → List (String × FieldValue)
  | registration pair explicit discovered lazy =>
    ("event", .text "registration") :: pairFields pair ++
      [("explicit", .count explicit), ("discovered", .count discovered), ("lazy", .flag lazy)]
  | binding pair label =>
    ("event", .text "binding") :: pairFields pair ++ [("binding", .shown label)]
  | autoDiscovery pair label =>
    ("event", .text "auto_discovery") :: pairFields pair ++ [("binding", .shown label)]
  | bindingSkipped pair property entityType filterType =>
    ("event", .text "binding_skipped") :: pairFields pair ++
      [("property", .text property), ("entity_type", .shown entityType.text),
        ("filter_type", .shown filterType.text)]
  | compile pair bindings =>
    ("event", .text "compile") :: pairFields pair ++ [("bindings", .count bindings)]
  | build registrations automatic =>
    [("event", .text "build"), ("registrations", .count registrations),
      ("auto_register", .flag automatic)]
  | autoRegister pair bindings =>
    ("event", .text "auto_register") :: pairFields pair ++ [("bindings", .count bindings)]
  | notRegistered pair => ("event", .text "not_registered") :: pairFields pair

end Event

end RecordFilter
