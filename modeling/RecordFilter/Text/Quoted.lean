import RecordFilter.Text.Casing
import RecordFilter.Text.EscapedRanges

set_option autoImplicit false

/-!
Quoted text. The delimiter, the backslash and the common control characters are written with a
backslash; every other character that would not be seen is written by its code point.
-/

namespace RecordFilter.Text

private def byCodePoint (c : Char) : List Char :=
  ['\\', 'u', '\x7b'] ++ Nat.toDigits 16 c.toNat ++ ['\x7d']

/-- How one character stands between two delimiters. -/
def escaped (delimiter c : Char) : List Char :=
  if c = '\x00' then ['\\', '0']
  else if c = '\t' then ['\\', 't']
  else if c = '\r' then ['\\', 'r']
  else if c = '\n' then ['\\', 'n']
  else if c = '\\' || c = delimiter then ['\\', c]
  else if inRanges escapedRanges c then byCodePoint c
  else [c]

def quotedBy (delimiter : Char) (s : List Char) : String :=
  String.ofList (delimiter :: s.flatMap (escaped delimiter) ++ [delimiter])

/-- Text between double quotes. -/
def quoted (s : String) : String := quotedBy '"' s.toList

end RecordFilter.Text
