set_option autoImplicit false

/-!
The tokens of an indented settings file, and a cursor over its text. Where a line is indented
further than the ones before, a block begins; begin and end of a block are tokens of their own.
-/

namespace RecordFilter.Yaml

/-- How a scalar was written. -/
inductive ScalarStyle where
  | plain | singleQuoted | doubleQuoted | literal | folded
  deriving DecidableEq, Repr

/-- A tag as written: a handle, empty for a tag in full, and the rest. -/
structure TagName where
  handle : String
  suffix : String
  deriving DecidableEq, Repr

inductive Token where
  | versionDirective (major minor : Nat)
  | tagDirective (handle tagText : String)
  | documentStart
  | documentEnd
  | blockSequenceStart
  | blockMappingStart
  | blockEnd
  | flowSequenceStart
  | flowSequenceEnd
  | flowMappingStart
  | flowMappingEnd
  | blockEntry
  | flowEntry
  | key
  | value
  | alias (name : String)
  | anchor (name : String)
  | tag (name : TagName)
  | scalar (text : String) (style : ScalarStyle)
  deriving DecidableEq, Repr

/-- A place in the text: what comes next, and how many bytes, lines, and characters of the line
come before. -/
structure Cursor where
  rest : List Char
  offset : Nat
  line : Nat
  column : Nat

def isBreak (c : Char) : Bool :=
  c == '\n' || c == '\r' || c == '\x85' || c == '\u2028' || c == '\u2029'

def isBlank (c : Char) : Bool := c == ' ' || c == '\t'

namespace Cursor

def peek (c : Cursor) (n : Nat) : Option Char := c.rest[n]?

/-- Whether a certain character is that many places ahead. -/
def has (c : Cursor) (n : Nat) (char : Char) : Bool := c.peek n == some char

/-- Whether the text, the line or a word ends that many places ahead. -/
def atGap (c : Cursor) (n : Nat) : Bool :=
  match c.peek n with
  | none => true
  | some char => isBlank char || isBreak char

def atBreak (c : Cursor) : Bool := (c.peek 0).any isBreak

def atBlank (c : Cursor) : Bool := (c.peek 0).any isBlank

/-- Whether the text or the line ends here. -/
def atLineEnd (c : Cursor) : Bool := (c.peek 0).all isBreak

/-- Passes characters of a line. -/
def skip (c : Cursor) (n : Nat) : Cursor :=
  { rest := c.rest.drop n
    offset := (c.rest.take n).foldl (fun bytes char => bytes + char.utf8Size) c.offset
    line := c.line
    column := c.column + n }

/-- Passes the characters of a kind, none of which ends a line. -/
def skipWhile (c : Cursor) (p : Char → Bool) : Cursor := c.skip (c.rest.takeWhile p).length

/-- Passes a line end, and says what it counts as: most kinds are line feeds. -/
def skipBreak (c : Cursor) : Cursor × List Char :=
  match c.rest with
  | '\r' :: '\n' :: rest => (⟨rest, c.offset + 2, c.line + 1, 0⟩, ['\n'])
  | char :: rest =>
    if isBreak char then
      (⟨rest, c.offset + char.utf8Size, c.line + 1, 0⟩,
        [if char == '\u2028' || char == '\u2029' then char else '\n'])
    else (c, [])
  | [] => (c, [])

/-- Whether a line starts here with three marks and nothing right behind them. -/
def atDocumentMark (c : Cursor) (mark : Char) : Bool :=
  c.column == 0 && c.has 0 mark && c.has 1 mark && c.has 2 mark && c.atGap 3

def atAnyDocumentMark (c : Cursor) : Bool := c.atDocumentMark '-' || c.atDocumentMark '.'

end Cursor

end RecordFilter.Yaml
