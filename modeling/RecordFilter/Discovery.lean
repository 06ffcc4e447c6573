import RecordFilter.Declaration

set_option autoImplicit false

/-!
Bindings between properties of the same name. Every filter field that is not claimed, and whose
name is that of an unclaimed entity field, is tried as a string test, as a comparison for equality,
as the item of a collection, and as a collection; the first of these that resolves is the binding.
-/

namespace RecordFilter

/-- What discovery found for two fields of the same name. -/
inductive Finding where
  | bound (binding : Binding)
  | skipped (entity filter : Field)

namespace Finding

def binding? : Finding → Option Binding
  | bound binding => some binding
  | skipped .. => none

/-- The underlying type of two skipped fields when it is the same and has no equality. -/
def unusable? : Finding → Option ValueType
  | bound _ => none
  | skipped entity filter =>
    if entity.type.underlying = filter.type.underlying
      && !entity.type.underlying.comparability.hasEquality
    then some entity.type.underlying else none

end Finding

/-- The declarations tried for a name, in order. The string test is left out unless the entity
field is a string and the filter field a string or a list of strings. -/
def candidates (name : String) (strings : Bool) : List Declaration :=
  (if strings then [.text name name none none {}] else []) ++
    [.compare name name .equal {}, .contain name name .contains none {},
      .member name name .isIn none {}]

/-- Tries the candidates for two fields of the same name. -/
def findBinding (entity filter : Shape) (settings : Settings) (entityField filterField : Field) :
    Finding :=
  let strings := entityField.type.isString &&
    (filterField.type.isString || filterField.type.isStringList)
  let resolved := (candidates filterField.name strings).findSome? fun candidate =>
    (candidate.resolve entity filter settings).toOption
  match resolved with
  | some binding => .bound binding
  | none => .skipped entityField filterField

/-- The findings for all names that are claimed on neither side, in the order of the filter's
fields. -/
def discover (entity filter : Shape) (claimedEntity claimedFilter : List String)
    (settings : Settings) : List Finding :=
  filter.fields.filterMap fun field =>
    if claimedFilter.contains field.name || claimedEntity.contains field.name then none
    else (entity.field? field.name).map fun entityField =>
      findBinding entity filter settings entityField field

/-- The bindings among findings. -/
def discoveredBindings (findings : List Finding) : List Binding := findings.filterMap (·.binding?)

/-- Fails when there is no binding at all. The first pair of fields whose type has no equality
makes the registration trivial. -/
def requireBindings (explicit : List Binding) (findings : List Finding) (pair : ShapePair) :
    Except FilterError Unit :=
  if explicit.isEmpty && (discoveredBindings findings).isEmpty then
    match findings.findSome? (·.unusable?) with
    | some type => .error (.trivialRegistration pair type)
    | none => .error (.noUsableBinding pair)
  else .ok ()

end RecordFilter
