import RecordFilter.Text.Parser
import RecordFilter.Yaml.Token

set_option autoImplicit false

/-!
The scalars of an indented settings file. Plain and quoted scalars may run over several lines; a
single line end in them becomes a space, and of more line ends the first is dropped. Block scalars
keep their lines, or fold them in the same way where no line starts with a space.
-/

namespace RecordFilter.Yaml

/-- Blanks and line ends between two words of a scalar. -/
structure Gap where
  blanks : List Char := []
  /-- The first line end; empty when it was escaped. -/
  firstBreak : List Char := []
  moreBreaks : List Char := []
  /-- Whether there was a line end at all. -/
  broken : Bool := false

namespace Gap

/-- What the gap amounts to in the value. -/
def joined (gap : Gap) : List Char :=
  if !gap.broken then gap.blanks
  else if gap.firstBreak = ['\n'] then
    (if gap.moreBreaks.isEmpty then [' '] else gap.moreBreaks)
  else gap.firstBreak ++ gap.moreBreaks

/-- Reads a gap. In the indentation of a line no tab is allowed before the given column. -/
def read (tabColumn : Int) : Nat → Gap → Cursor → Option (Gap × Cursor)
  | 0, gap, c => some (gap, c)
  | fuel + 1, gap, c =>
    match c.peek 0 with
    | some char =>
      if isBlank char then
        if gap.broken then
          if char == '\t' && c.column < tabColumn then none
          else read tabColumn fuel gap (c.skip 1)
        else read tabColumn fuel { gap with blanks := gap.blanks ++ [char] } (c.skip 1)
      else if isBreak char then
        let (next, line) := c.skipBreak
        if gap.broken then
          read tabColumn fuel { gap with moreBreaks := gap.moreBreaks ++ line } next
        else read tabColumn fuel { firstBreak := line, broken := true } next
      else some (gap, c)
    | none => some (gap, c)

end Gap

/-! ### Plain scalars -/

private def isFlowIndicator (c : Char) : Bool :=
  c == ',' || c == '[' || c == ']' || c == '{' || c == '}'

/-- Reads one word of a plain scalar. -/
private def plainWord (inFlow : Bool) : Nat → List Char → Cursor → Option (List Char × Cursor)
  | 0, word, c => some (word, c)
  | fuel + 1, word, c =>
    match c.peek 0 with
    | none => some (word, c)
    | some char =>
      if c.atGap 0 then some (word, c)
      else if inFlow && char == ':' && (c.peek 1).any fun d => isFlowIndicator d || d == '?' then
        none
      else if (char == ':' && c.atGap 1) || (inFlow && isFlowIndicator char) then some (word, c)
      else plainWord inFlow fuel (word ++ [char]) (c.skip 1)

/-- Reads the words of a plain scalar. In a block every line has to be indented; the last flag
tells whether the scalar is followed by a line end. -/
private def plainWords (indent : Int) (inFlow : Bool) :
    Nat → List Char → Gap → Cursor → Option (List Char × Cursor × Bool)
  | 0, text, gap, c => some (text, c, gap.broken)
  | fuel + 1, text, gap, c =>
    if c.atAnyDocumentMark || c.has 0 '#' then some (text, c, gap.broken)
    else
      match plainWord inFlow c.rest.length [] c with
      | none => none
      | some (word, c') =>
        let text' := if word.isEmpty then text else text ++ gap.joined ++ word
        let broken := word.isEmpty && gap.broken
        if !(c'.atBlank || c'.atBreak) then some (text', c', broken)
        else
          match Gap.read indent c'.rest.length {} c' with
          | none => none
          | some (gap', c'') =>
            if !inFlow && c''.column < indent then some (text', c'', gap'.broken)
            else plainWords indent inFlow fuel text' gap' c''

/-- A plain scalar, and whether a line end follows it. -/
def scanPlain (indent : Int) (inFlow : Bool) (c : Cursor) : Option (Token × Cursor × Bool) := do
  let (text, c, broken) ← plainWords indent inFlow c.rest.length [] {} c
  return (.scalar (String.ofList text) .plain, c, broken)

/-! ### Quoted scalars -/

/-- The characters that escapes of one letter stand for. -/
private def simpleEscape? : Char → Option Char
  | '0' => some '\x00'
  | 'a' => some '\x07'
  | 'b' => some '\x08'
  | 't' => some '\t'
  | '\t' => some '\t'
  | 'n' => some '\n'
  | 'v' => some '\x0b'
  | 'f' => some '\x0c'
  | 'r' => some '\r'
  | 'e' => some '\x1b'
  | ' ' => some ' '
  | '"' => some '"'
  | '/' => some '/'
  | '\\' => some '\\'
  | 'N' => some '\x85'
  | '_' => some '\xa0'
  | 'L' => some '\u2028'
  | 'P' => some '\u2029'
  | _ => none

/-- The number of hexadecimal digits behind the letter of an escape. -/
private def escapeDigits? : Char → Option Nat
  | 'x' => some 2
  | 'u' => some 4
  | 'U' => some 8
  | _ => none

/-- Reads an escape, of which the backslash is next, and that is no escaped line end. -/
private def scanEscape (c : Cursor) : Option (Char × Cursor) := do
  let letter ← c.peek 1
  match simpleEscape? letter with
  | some char => return (char, c.skip 2)
  | none =>
    let count ← escapeDigits? letter
    let digits := (c.rest.drop 2).take count
    if digits.length < count || digits.any fun d => (Text.hexValue? d).isNone then none
    else return (← Text.charOfCodePoint? (Text.digitsValue 16 digits), c.skip (2 + count))

/-- Reads up to a gap or the closing quote. The last result is the gap that an escaped line end
opens. -/
private def quotedWord (single : Bool) : Nat → List Char → Cursor → Option (List Char × Cursor × Gap)
  | 0, word, c => some (word, c, {})
  | fuel + 1, word, c =>
    match c.peek 0 with
    | none => some (word, c, {})
    | some char =>
      if c.atGap 0 then some (word, c, {})
      else if single then
        if char == '\'' then
          if c.has 1 '\'' then quotedWord single fuel (word ++ ['\'']) (c.skip 2)
          else some (word, c, {})
        else quotedWord single fuel (word ++ [char]) (c.skip 1)
      else if char == '"' then some (word, c, {})
      else if char == '\\' then
        if (c.peek 1).any isBreak then some (word, (c.skip 1).skipBreak.1, { broken := true })
        else
          match scanEscape c with
          | some (escaped, c') => quotedWord single fuel (word ++ [escaped]) c'
          | none => none
      else quotedWord single fuel (word ++ [char]) (c.skip 1)

private def quotedWords (single : Bool) : Nat → List Char → Cursor → Option (List Char × Cursor)
  | 0, _, _ => none
  | fuel + 1, text, c =>
    if c.atAnyDocumentMark || c.rest.isEmpty then none
    else
      match quotedWord single c.rest.length [] c with
      | none => none
      | some (word, c', opened) =>
        if !opened.broken && c'.has 0 (if single then '\'' else '"') then
          some (text ++ word, c'.skip 1)
        else
          match Gap.read (-1) c'.rest.length opened c' with
          | none => none
          | some (gap, c'') => quotedWords single fuel (text ++ word ++ gap.joined) c''

/-- A quoted scalar, of which the opening quote is next. -/
def scanQuoted (single : Bool) (c : Cursor) : Option (Token × Cursor) := do
  let (text, c) ← quotedWords single (c.rest.length + 1) [] (c.skip 1)
  return (.scalar (String.ofList text) (if single then .singleQuoted else .doubleQuoted), c)

/-! ### Block scalars -/

/-- What happens to the line ends at the end of a block scalar. -/
private inductive Chomping where
  | strip | clip | keep
  deriving DecidableEq

private structure BlockHeader where
  chomping : Chomping := .clip
  increment : Option Nat := none

/-- Reads the marks behind the indicator: one for the line ends, one for the indentation, in
either order. -/
private def scanBlockHeader (c : Cursor) : Option (BlockHeader × Cursor) :=
  let chomping? (c : Cursor) : Option Chomping :=
    if c.has 0 '+' then some .keep else if c.has 0 '-' then some .strip else none
  let digit? (c : Cursor) : Option Nat :=
    (c.peek 0).bind fun d => if d.isDigit then some (d.toNat - '0'.toNat) else none
  let nonzero : Option Nat → Option (Option Nat)
    | some 0 => none
    | increment => some increment
  match chomping? c with
  | some chomping =>
    match digit? (c.skip 1) with
    | none => some ({ chomping }, c.skip 1)
    | some n => (nonzero (some n)).map fun increment => ({ chomping, increment }, c.skip 2)
  | none =>
    match digit? c with
    | none => some ({}, c)
    | some n =>
      (nonzero (some n)).map fun increment =>
        match chomping? (c.skip 1) with
        | some chomping => ({ chomping, increment }, c.skip 2)
        | none => ({ increment }, c.skip 1)

/-- Reads empty lines and the indentation of the line after them. While the indentation of the
block is not known, the longest one so far is kept. -/
private def blockBreaks (indent : Option Nat) :
    Nat → Nat → List Char → Cursor → Option (Nat × List Char × Cursor)
  | 0, longest, breaks, c => some (longest, breaks, c)
  | fuel + 1, longest, breaks, c =>
    let spaces := (c.rest.takeWhile (· == ' ')).length
    let c' := c.skip (match indent with
      | some n => min spaces (n - c.column)
      | none => spaces)
    let longest' := max longest c'.column
    if c'.has 0 '\t' && indent.all (c'.column < ·) then none
    else if c'.atBreak then
      let (next, line) := c'.skipBreak
      blockBreaks indent fuel longest' (breaks ++ line) next
    else some (longest', breaks, c')

private structure BlockText where
  text : List Char := []
  leadingBreak : List Char := []
  trailingBreaks : List Char
  leadingBlank : Bool := false

/-- Reads the lines of a block scalar. -/
private def blockLines (literal : Bool) (indent : Nat) :
    Nat → BlockText → Cursor → Option (BlockText × Cursor)
  | 0, block, c => some (block, c)
  | fuel + 1, block, c =>
    if c.column ≠ indent || c.rest.isEmpty then some (block, c)
    else
      let blank := c.atBlank
      let folds := !literal && block.leadingBreak == ['\n'] && !block.leadingBlank && !blank
      let joint :=
        if folds then (if block.trailingBreaks.isEmpty then [' '] else []) else block.leadingBreak
      let words := c.rest.takeWhile (!isBreak ·)
      let (next, line) := (c.skip words.length).skipBreak
      match blockBreaks (some indent) next.rest.length 0 [] next with
      | none => none
      | some (_, breaks, c') =>
        blockLines literal indent fuel
          ⟨block.text ++ joint ++ block.trailingBreaks ++ words, line, breaks, blank⟩ c'

/-- A block scalar, of which the indicator is next, in a block indented as given. -/
def scanBlock (literal : Bool) (parentIndent : Int) (c : Cursor) : Option (Token × Cursor) := do
  let (header, c) ← scanBlockHeader (c.skip 1)
  let c := c.skipWhile isBlank
  let c := if c.has 0 '#' then c.skipWhile (!isBreak ·) else c
  if !c.atLineEnd then failure
  let c := c.skipBreak.1
  let known := header.increment.map fun n => (max parentIndent 0).toNat + n
  let (longest, breaks, c) ← blockBreaks known c.rest.length 0 [] c
  let indent := known.getD (max longest (max (parentIndent + 1).toNat 1))
  let (block, c) ← blockLines literal indent c.rest.length { trailingBreaks := breaks } c
  let ending := match header.chomping with
    | .strip => []
    | .clip => block.leadingBreak
    | .keep => block.leadingBreak ++ block.trailingBreaks
  return (.scalar (String.ofList (block.text ++ ending)) (if literal then .literal else .folded), c)

end RecordFilter.Yaml
