import RecordFilter.Registry

set_option autoImplicit false

/-!
Dumps of the objects that hold a program's configuration: settings, configurations in progress,
and registries.
-/

namespace RecordFilter

/-- The name of a string operator in a dump. -/
def StringOp.label : StringOp → String
  | equal => "Equal"
  | notEqual => "NotEqual"
  | contains => "Contains"
  | notContains => "NotContains"
  | startsWith => "StartsWith"
  | notStartsWith => "NotStartsWith"
  | endsWith => "EndsWith"
  | notEndsWith => "NotEndsWith"
  | isIn => "In"
  | notIn => "NotIn"

private def dumpStructure (name : String) (fields : List (String × String)) : String :=
  name ++ " \x7b " ++ ", ".intercalate (fields.map fun field => field.1 ++ ": " ++ field.2) ++
    " \x7d"

def ShapePair.dump (pair : ShapePair) : String :=
  dumpStructure "ShapePair"
    [("entity", Text.quoted pair.entity), ("filter", Text.quoted pair.filter)]

def Settings.dump (settings : Settings) : String :=
  dumpStructure "FilterSettings"
    [("default_string_op", settings.defaultStringOp.label),
      ("string_comparison", settings.stringComparison.label),
      ("auto_register", toString settings.autoRegister),
      ("lazy", toString settings.lazy)]

/-- A configuration in progress; of bindings and filter exclusions it shows the number. -/
def Configuration.dump (config : Configuration) : String :=
  dumpStructure "Configuration"
    [("pair", config.pair.dump),
      ("settings", config.settings.dump),
      ("bindings", toString config.bindings.length),
      ("entity_exclusions",
        "\x7b" ++ ", ".intercalate (config.entityExclusions.map Text.quoted) ++ "\x7d"),
      ("filter_exclusions", toString config.filterExclusions.length)]

/-- A registry; it shows the registered pairs, sorted by their text. -/
def Registry.dump (registry : Registry) : String :=
  let pairs := (registry.slots.map (·.pair.text)).mergeSort (decide <| · ≤ ·)
  dumpStructure "FilterRegistry"
    [("filters", "[" ++ ", ".intercalate (pairs.map Text.quoted) ++ "]"),
      ("auto_register", toString registry.isAutoRegister)]

end RecordFilter
