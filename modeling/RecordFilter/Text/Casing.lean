import RecordFilter.Text.CasingRanges

set_option autoImplicit false

/-!
Lower case of whole texts. Every character is mapped on its own, except the capital sigma: at
the end of a word it becomes the final small sigma. It stands at the end of a word when a cased
letter comes before it and none comes after it, case-ignorable characters not counted.
-/

namespace RecordFilter

/-- The lower case of a capital in the range. -/
def CapitalRange.lower? (range : CapitalRange) (c : Char) : Option Char :=
  if range.first ≤ c.toNat && c.toNat ≤ range.last && (c.toNat - range.first) % range.step == 0 then
    some (Char.ofNat (c.toNat + range.shift).toNat)
  else none

namespace Text

def inRanges (ranges : List (Nat × Nat)) (c : Char) : Bool :=
  ranges.any fun range => range.1 ≤ c.toNat && c.toNat ≤ range.2

def isCaseIgnorable (c : Char) : Bool := inRanges caseIgnorableRanges c

/-- Whether a character that is not case-ignorable has letter case. -/
def isCased (c : Char) : Bool := inRanges casedRanges c

/-- The lower case of one character, out of context. -/
def lowerChar (c : Char) : List Char :=
  if c = 'İ' then ['i', '\u0307']
  else [(capitalRanges.findSome? (·.lower? c)).getD c]

/-- Whether the first character that is not case-ignorable has letter case. -/
def startsCased (s : List Char) : Bool :=
  match s.dropWhile isCaseIgnorable with
  | [] => false
  | c :: _ => isCased c

/-- The lower case of a text, given the characters before it, nearest first. -/
def lowercaseAfter (before : List Char) : List Char → List Char
  | [] => []
  | c :: rest =>
    (if c = 'Σ' then [if startsCased before && !startsCased rest then 'ς' else 'σ']
      else lowerChar c) ++ lowercaseAfter (c :: before) rest

def lowercase (s : List Char) : List Char := lowercaseAfter [] s

end Text

end RecordFilter
