import RecordFilter.Compatibility
import RecordFilter.Value.Text

set_option autoImplicit false

/-!
What can go wrong, by cause. All but the missing registration arise while shapes, records and
bindings are being set up.
-/

namespace RecordFilter

/-- What a registration is known by: the names of its entity shape and its filter shape. -/
structure ShapePair where
  entity : String
  filter : String
  deriving DecidableEq, Repr

def ShapePair.text (pair : ShapePair) : String :=
  "(" ++ pair.entity ++ ", " ++ pair.filter ++ ")"

/-- A property as an error names it. -/
structure Operand where
  name : String
  type : ValueType
  deriving DecidableEq, Repr

def Operand.text (operand : Operand) : String := operand.name ++ ": " ++ operand.type.text

inductive ShapeFault where
  | emptyName (index : Nat)
  | declaredTwice (field : String)
  deriving DecidableEq, Repr

def ShapeFault.message : ShapeFault → String
  | emptyName index => "field " ++ toString index ++ " has an empty name"
  | declaredTwice field => "field " ++ field ++ " is declared twice"

inductive RecordFault where
  | unknownField (field : String)
  | wrongCount (expected actual : Nat)
  | notAdmitted (field : Operand) (value : Value)
  | otherShape (name : String)

def RecordFault.message : RecordFault → String
  | unknownField field => "unknown field " ++ field
  | wrongCount expected actual =>
    "expected " ++ toString expected ++ " values, got " ++ toString actual
  | notAdmitted field value => "field " ++ field.text ++ " does not admit " ++ value.text
  | otherShape name => "got a record of shape " ++ name

/-- Why a collection cannot be searched for an item. -/
inductive ContainerFault where
  | notACollection
  | incompatible (reason : Incompatibility)
  deriving DecidableEq, Repr

def ContainerFault.message : ContainerFault → String
  | notACollection => "not a collection"
  | incompatible reason => reason.message

inductive FilterError where
  | duplicateRegistration (pair : ShapePair)
  | duplicateBinding (pair : ShapePair) (binding : String)
  | incompatibleOperator (entity filter : Operand) (op : CompareOp) (reason : Incompatibility)
  | incompatibleContainer (collection item : Operand) (reason : ContainerFault)
  | invalidStringBinding (entity filter : Operand) (op : StringOp)
  | unnecessaryNullInclusion (entity : Operand)
  | noUsableBinding (pair : ShapePair)
  /-- Properties match by name, but their type defines no equality. -/
  | trivialRegistration (pair : ShapePair) (type : ValueType)
  | duplicateExclusion (shape property : String)
  | notRegistered (pair : ShapePair)
  | unknownProperty (shape property : String)
  | invalidShape (shape : String) (fault : ShapeFault)
  | invalidRecord (shape : String) (fault : RecordFault)

def FilterError.message : FilterError → String
  | duplicateRegistration pair => "filter for " ++ pair.text ++ " is already registered"
  | duplicateBinding pair binding =>
    "binding " ++ binding ++ " is declared twice for " ++ pair.text
  | incompatibleOperator entity filter op reason =>
    "operator " ++ op.symbol ++ " cannot relate " ++ entity.text ++ " with " ++ filter.text ++
      " (" ++ reason.message ++ ")"
  | incompatibleContainer collection item reason =>
    "collection " ++ collection.text ++ " cannot hold " ++ item.text ++ " (" ++ reason.message ++ ")"
  | invalidStringBinding entity filter op =>
    "string operator " ++ op.name ++ " needs string properties, got " ++ entity.text ++ " and " ++
      filter.text
  | unnecessaryNullInclusion entity =>
    "null inclusion is meaningless for " ++ entity.text ++ ", which cannot be null"
  | noUsableBinding pair =>
    "no property of " ++ pair.entity ++ " can be filtered by any property of " ++ pair.filter
  | trivialRegistration pair type =>
    "registration of " ++ pair.text ++ " is trivial: matching properties of type " ++ type.text ++
      " define no equality"
  | duplicateExclusion shape property =>
    "property " ++ shape ++ "." ++ property ++ " is already excluded"
  | notRegistered pair => "no filter registered for " ++ pair.text
  | unknownProperty shape property => "shape " ++ shape ++ " has no property " ++ property
  | invalidShape shape fault => "invalid shape " ++ shape ++ ": " ++ fault.message
  | invalidRecord shape fault => "invalid record for " ++ shape ++ ": " ++ fault.message

end RecordFilter
