import RecordFilter.Text.Quoted

set_option autoImplicit false

/-!
Values of types the caller defines. A custom value says itself how it relates to another one,
of which it sees the type's name and the content; a relation it does not define has no answer.
Four ready-made types show the possible mixtures: an amount of money has both relations, a blob
of bytes neither, a tag only equality, and a version only an order.
-/

namespace RecordFilter

/-- What a custom value holds, as other custom values see it. -/
inductive Content where
  | integer (n : Int)
  | text (s : String)
  | bytes (b : List Nat)
  deriving DecidableEq, Repr

structure CustomValue where
  typeName : String
  content : Content
  /-- Tells objects apart: copies of one object share it, and no other object has it. -/
  identity : Nat
  dump : String
  equalsTo : String → Content → Option Bool
  compareTo : String → Content → Option Ordering

namespace CustomValue

def equals? (a b : CustomValue) : Option Bool := a.equalsTo b.typeName b.content

def compare? (a b : CustomValue) : Option Ordering := a.compareTo b.typeName b.content

/-- An amount of money in cents. -/
def money (identity : Nat) (cents : Int) : CustomValue where
  typeName := "Money"
  content := .integer cents
  identity
  dump := "Money(" ++ toString cents ++ ")"
  equalsTo
    | "Money", .integer other => some (cents == other)
    | _, _ => none
  compareTo
    | "Money", .integer other => some (compare cents other)
    | _, _ => none

/-- Raw bytes, related to nothing. -/
def blob (identity : Nat) (bytes : List Nat) : CustomValue where
  typeName := "Blob"
  content := .bytes bytes
  identity
  dump := "Blob([" ++ ", ".intercalate (bytes.map toString) ++ "])"
  equalsTo _ _ := none
  compareTo _ _ := none

/-- A label, equal or not to another one. -/
def tag (identity : Nat) (label : String) : CustomValue where
  typeName := "Tag"
  content := .text label
  identity
  dump := "Tag(" ++ Text.quoted label ++ ")"
  equalsTo
    | "Tag", .text other => some (label == other)
    | _, _ => none
  compareTo _ _ := none

/-- A version number, before or after another one. -/
def version (identity : Nat) (number : Nat) : CustomValue where
  typeName := "Version"
  content := .integer number
  identity
  dump := "Version(" ++ toString number ++ ")"
  equalsTo _ _ := none
  compareTo
    | "Version", .integer other => some (compare (number : Int) other)
    | _, _ => none

end CustomValue

end RecordFilter
