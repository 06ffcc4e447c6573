import RecordFilter.Error

set_option autoImplicit false

/-!
Shapes and their records. A shape is a named list of typed fields, whose names are pairwise
different and not empty. A record of a shape holds one value for every field, and the field's type
admits it. Both facts belong to the types: a shape or a record that violates them cannot be made.
-/

namespace RecordFilter

structure Field where
  name : String
  type : ValueType
  deriving DecidableEq, Repr

def Field.operand (field : Field) : Operand := ⟨field.name, field.type⟩

/-- What is wrong with the names of a list of fields, given those that come before it. -/
def firstShapeFault? (before : List Field) : List Field → Option ShapeFault
  | [] => none
  | field :: rest =>
    if field.name = "" then some (.emptyName before.length)
    else if before.any (·.name == field.name) then some (.declaredTwice field.name)
    else firstShapeFault? (before ++ [field]) rest

structure Shape where
  name : String
  fields : List Field
  faultless : firstShapeFault? [] fields = none

namespace Shape

def make (name : String) (fields : List Field) : Except FilterError Shape :=
  match h : firstShapeFault? [] fields with
  | none => .ok ⟨name, fields, h⟩
  | some fault => .error (.invalidShape name fault)

/-- The position of a field. -/
def index? (shape : Shape) (name : String) : Option Nat :=
  shape.fields.findIdx? (·.name == name)

def field? (shape : Shape) (name : String) : Option Field :=
  shape.fields.find? (·.name == name)

/-- The name of the field at a position, empty if there is none. -/
def nameAt (shape : Shape) (index : Nat) : String :=
  (shape.fields[index]?).elim "" (·.name)

/-- The first field whose type refuses its value. -/
def firstRefusal? : List Field → List Value → Option RecordFault
  | field :: fields, value :: values =>
    if field.type.admits value then firstRefusal? fields values
    else some (.notAdmitted field.operand value)
  | _, _ => none

/-- What is wrong with a list of values for the fields. -/
def recordFault? (shape : Shape) (values : List Value) : Option RecordFault :=
  if values.length ≠ shape.fields.length then
    some (.wrongCount shape.fields.length values.length)
  else firstRefusal? shape.fields values

def pairWith (entity filter : Shape) : ShapePair := ⟨entity.name, filter.name⟩

end Shape

structure Record where
  shape : Shape
  values : List Value
  faultless : shape.recordFault? values = none

namespace Record

/-- The value at a position, null if there is none. -/
def get (record : Record) (index : Nat) : Value := (record.values[index]?).getD .null

/-- The value of a field. -/
def field? (record : Record) (name : String) : Option Value :=
  (record.shape.index? name).map record.get

end Record

namespace Shape

/-- The record with the given values, in field order. -/
def recordOf (shape : Shape) (values : List Value) : Except FilterError Record :=
  match h : shape.recordFault? values with
  | none => .ok ⟨shape, values, h⟩
  | some fault => .error (.invalidRecord shape.name fault)

/-- Puts named values in their places. -/
def place (shape : Shape) : List Value → List (String × Value) → Except FilterError (List Value)
  | slots, [] => .ok slots
  | slots, (name, value) :: rest =>
    match shape.index? name with
    | some index => place shape (slots.set index value) rest
    | none => .error (.invalidRecord shape.name (.unknownField name))

/-- The record with the given values by name. Of two values for one field the later counts, and
a field without one is null. -/
def record (shape : Shape) (values : List (String × Value)) : Except FilterError Record := do
  shape.recordOf (← shape.place (shape.fields.map fun _ => .null) values)

/-- Fails unless the record is of a shape with this name. -/
def checkRecord (shape : Shape) (record : Record) : Except FilterError Unit :=
  if record.shape.name = shape.name then .ok ()
  else .error (.invalidRecord shape.name (.otherShape record.shape.name))

end Shape

/-- A field of a shape together with its position. -/
structure Property where
  name : String
  index : Nat
  type : ValueType
  deriving DecidableEq, Repr

namespace Property

def canBeNull (property : Property) : Bool := property.type.canBeNull

def operand (property : Property) : Operand := ⟨property.name, property.type⟩

end Property

/-- Looks a property up by name. -/
def Shape.property (shape : Shape) (name : String) : Except FilterError Property :=
  match shape.index? name, shape.field? name with
  | some index, some field => .ok ⟨field.name, index, field.type⟩
  | _, _ => .error (.unknownProperty shape.name name)

end RecordFilter
