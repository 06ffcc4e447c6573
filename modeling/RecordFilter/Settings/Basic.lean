import RecordFilter.Operator

set_option autoImplicit false

/-!
Defaults for the registrations of a builder. The default string operator is applied to two
strings, so an operator for a list of strings is no valid default.
-/

namespace RecordFilter

structure Settings where
  /-- The operator of string bindings that name none. -/
  defaultStringOp : StringOp := .equal
  /-- The comparison mode of string bindings that name none. -/
  stringComparison : StringComparison := .caseSensitive
  /-- Whether pairs nobody registered are discovered when they are asked for. -/
  autoRegister : Bool := false
  /-- Whether registrations are compiled when they are first asked for. -/
  lazy : Bool := false
  deriving DecidableEq, Repr

/-- Why settings could not be had. -/
inductive SettingsError where
  | unreadableFile
  | toml
  | yaml
  | membershipDefault (op : StringOp)
  deriving DecidableEq, Repr

/-- The message, for the errors that have a fixed one. -/
def SettingsError.message? : SettingsError → Option String
  | membershipDefault op => some <|
    "Invalid configuration: default_string_op cannot be " ++ op.name ++
      ": it applies to scalar string pairs"
  | _ => none

namespace Settings

def validate (settings : Settings) : Except SettingsError Settings :=
  if settings.defaultStringOp.isMembership then
    .error (.membershipDefault settings.defaultStringOp)
  else .ok settings

end Settings

end RecordFilter
