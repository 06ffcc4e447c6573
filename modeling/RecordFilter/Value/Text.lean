import RecordFilter.Value.Basic

set_option autoImplicit false

/-!
Two texts of a value: the plain one stands in predicates and messages, the dump names the kind
of every value in it.
-/

namespace RecordFilter

/-- The name of a numeric type in a dump. -/
def NumericType.label (t : NumericType) : String := t.name.capitalize

namespace Value

mutual

def text : Value → String
  | null => "null"
  | bool b => toString b
  | char c => String.ofList ['\'', c, '\'']
  | number n => n.text
  | string s => Text.quoted s
  | dateTime ms => "datetime(" ++ toString ms ++ ")"
  | enum ordinal => "#" ++ toString ordinal
  | list items => "[" ++ ", ".intercalate (texts items) ++ "]"
  | custom c => c.dump

def texts : List Value → List String
  | [] => []
  | item :: rest => text item :: texts rest

end

mutual

def dump : Value → String
  | null => "Null"
  | bool b => "Bool(" ++ toString b ++ ")"
  | char c => "Char(" ++ Text.quotedBy '\'' [c] ++ ")"
  | number n => n.type.label ++ "(" ++ n.dump ++ ")"
  | string s => "String(" ++ Text.quoted s ++ ")"
  | dateTime ms => "DateTime(" ++ toString ms ++ ")"
  | enum ordinal => "Enum(" ++ toString ordinal ++ ")"
  | list items => "List([" ++ ", ".intercalate (dumps items) ++ "])"
  | custom c => "Custom(" ++ c.dump ++ ")"

def dumps : List Value → List String
  | [] => []
  | item :: rest => dump item :: dumps rest

end

end Value

end RecordFilter
