import RecordFilter.Expr.Basic
import RecordFilter.Value.Text

set_option autoImplicit false

/-!
Two texts of a tree: the readable one names the fields it reads, the dump spells out every node.
-/

namespace RecordFilter

namespace StringComparison

/-- What a readable text adds to a string test. -/
def suffixText : StringComparison → String
  | caseSensitive => ""
  | caseInsensitive => ", ignore_case"

def label : StringComparison → String
  | caseSensitive => "CaseSensitive"
  | caseInsensitive => "CaseInsensitive"

end StringComparison

/-- The name of a text test in a dump. -/
def TextOp.label : TextOp → String
  | equals => "Equals"
  | contains => "Contains"
  | startsWith => "StartsWith"
  | endsWith => "EndsWith"

/-- The name of a comparison in a dump. -/
def CompareOp.label : CompareOp → String
  | equal => "Eq"
  | notEqual => "Ne"
  | greaterThan => "Gt"
  | greaterOrEqual => "Ge"
  | lessThan => "Lt"
  | lessOrEqual => "Le"

namespace Expr

private def fieldText (shape : Option Shape) (index : Nat) : String :=
  match shape.bind (·.fields[index]?) with
  | some known => known.name
  | none => "$" ++ toString index

private def binaryText (left symbol right : String) : String :=
  "(" ++ left ++ " " ++ symbol ++ " " ++ right ++ ")"

/-- The tree with the names of entity fields, and of filter fields when their shape is given. -/
def display (entity : Shape) (filter : Option Shape) : Expr → String
  | literal value => value.text
  | field index => fieldText (some entity) index
  | filterField index => "filter." ++ fieldText filter index
  | convert operand target => target.name ++ "(" ++ operand.display entity filter ++ ")"
  | compare op left right =>
    binaryText (left.display entity filter) op.symbol (right.display entity filter)
  | and left right => binaryText (left.display entity filter) "&&" (right.display entity filter)
  | or left right => binaryText (left.display entity filter) "||" (right.display entity filter)
  | not operand => "!" ++ operand.display entity filter
  | isNull operand => "(" ++ operand.display entity filter ++ " is null)"
  | isNotNull operand => "(" ++ operand.display entity filter ++ " is not null)"
  | contains collection item =>
    collection.display entity filter ++ ".contains(" ++ item.display entity filter ++ ")"
  | text op value pattern comparison =>
    value.display entity filter ++ "." ++ op.name ++ "(" ++ pattern.display entity filter ++
      comparison.suffixText ++ ")"
  | textIn collection item comparison =>
    collection.display entity filter ++ ".contains(" ++ item.display entity filter ++
      comparison.suffixText ++ ")"

private def dumpCall (name : String) (parts : List String) : String :=
  name ++ "(" ++ ", ".intercalate parts ++ ")"

private def dumpFields (name : String) (fields : List (String × String)) : String :=
  name ++ " \x7b " ++ ", ".intercalate (fields.map fun field => field.1 ++ ": " ++ field.2) ++ " \x7d"

def dump : Expr → String
  | literal value => dumpCall "Literal" [value.dump]
  | field index => dumpCall "Field" [toString index]
  | filterField index => dumpCall "FilterField" [toString index]
  | convert operand target => dumpFields "Convert" [("expr", operand.dump), ("to", target.label)]
  | compare op left right => dumpCall op.label [left.dump, right.dump]
  | and left right => dumpCall "And" [left.dump, right.dump]
  | or left right => dumpCall "Or" [left.dump, right.dump]
  | not operand => dumpCall "Not" [operand.dump]
  | isNull operand => dumpCall "IsNull" [operand.dump]
  | isNotNull operand => dumpCall "IsNotNull" [operand.dump]
  | contains collection item =>
    dumpFields "Contains" [("collection", collection.dump), ("item", item.dump)]
  | text op value pattern comparison =>
    dumpFields "Text" [("op", op.label), ("value", value.dump), ("pattern", pattern.dump),
      ("comparison", comparison.label)]
  | textIn collection item comparison =>
    dumpFields "TextIn" [("collection", collection.dump), ("item", item.dump),
      ("comparison", comparison.label)]

end Expr

end RecordFilter
