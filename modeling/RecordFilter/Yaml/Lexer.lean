import RecordFilter.Yaml.Scalar

set_option autoImplicit false

/-!
Cutting an indented settings file into tokens. Only the colon behind it makes a scalar a key, so
the place where a key may begin is remembered, and its token is put in later. A key that is not
marked by a question mark fits on one line and into 1024 bytes.
-/

namespace RecordFilter.Yaml

/-- A place where a key may have begun. -/
structure KeyPlace where
  /-- The number of tokens before it. -/
  position : Nat
  /-- Whether anything but a key would break the indentation. -/
  required : Bool
  offset : Nat
  line : Nat
  column : Nat

structure Lexer where
  cursor : Cursor
  tokens : List Token := []
  /-- The column of the block the cursor is in, and those of the blocks around it. -/
  indent : Int := -1
  outer : List Int := []
  /-- The possible key on this level, then those on the flow levels around it. -/
  keyPlace : Option KeyPlace := none
  outerKeys : List (Option KeyPlace) := []
  keyAllowed : Bool := true

namespace Lexer

def inFlow (l : Lexer) : Bool := !l.outerKeys.isEmpty

def emit (l : Lexer) (token : Token) : Lexer := { l with tokens := l.tokens ++ [token] }

def move (l : Lexer) (cursor : Cursor) : Lexer := { l with cursor }

/-- Ends all blocks that are indented further than the given column. -/
def unroll (l : Lexer) (column : Int) : Lexer :=
  if l.inFlow then l
  else
    let ended := (l.indent :: l.outer).takeWhile (column < ·)
    let left := (l.indent :: l.outer).dropWhile (column < ·)
    { l with
      tokens := l.tokens ++ ended.map fun _ => .blockEnd
      indent := left.headD (-1)
      outer := left.tail }

/-- Begins a block if the column is indented further, with its token at the given position. -/
def roll (l : Lexer) (column : Nat) (position : Nat) (token : Token) : Lexer :=
  if l.inFlow || column ≤ l.indent then l
  else
    { l with
      tokens := l.tokens.take position ++ token :: l.tokens.drop position
      indent := column
      outer := l.indent :: l.outer }

/-- Gives up the possible key; one that is required must not be given up. -/
def dropKey (l : Lexer) : Option Lexer :=
  if l.keyPlace.any (·.required) then none else some { l with keyPlace := none }

/-- Remembers that a key may begin here. -/
def saveKey (l : Lexer) : Option Lexer :=
  if l.keyAllowed then do
    let l' ← l.dropKey
    return { l' with
      keyPlace := some {
        position := l.tokens.length
        required := !l.inFlow && l.indent == l.cursor.column
        offset := l.cursor.offset
        line := l.cursor.line
        column := l.cursor.column } }
  else some l

/-- Gives up possible keys that have become too long. -/
def dropStaleKeys (l : Lexer) : Option Lexer :=
  let stale (key : KeyPlace) : Bool :=
    key.line < l.cursor.line || key.offset + 1024 < l.cursor.offset
  let fresh : Option KeyPlace → Option (Option KeyPlace)
    | none => some none
    | some key => if !stale key then some (some key) else if key.required then none else some none
  do return { l with keyPlace := ← fresh l.keyPlace, outerKeys := ← l.outerKeys.mapM fresh }

/-- Passes blanks, comments and line ends. Tabs are no indentation; a byte order mark that starts
a line is passed too, but counts as a character of it. -/
def skipToToken : Nat → Lexer → Lexer
  | 0, l => l
  | fuel + 1, l =>
    let start := if l.cursor.column = 0 && l.cursor.has 0 '\ufeff' then l.cursor.skip 1 else l.cursor
    let blanks := start.skipWhile fun c =>
      c == ' ' || ((l.inFlow || !l.keyAllowed) && c == '\t')
    let c := if blanks.has 0 '#' then blanks.skipWhile (!isBreak ·) else blanks
    if c.atBreak then
      skipToToken fuel { l with cursor := c.skipBreak.1, keyAllowed := l.keyAllowed || !l.inFlow }
    else l.move c

/-! ### Directives, anchors and tags -/

private def isWordChar (c : Char) : Bool := c.isAlphanum || c == '_' || c == '-'

/-- Passes the rest of a line, in which only a comment may stand. -/
private def endDirective (c : Cursor) : Option Cursor :=
  let c := c.skipWhile isBlank
  let c := if c.has 0 '#' then c.skipWhile (!isBreak ·) else c
  if c.atLineEnd then some c.skipBreak.1 else none

private def scanNumber (c : Cursor) : Option (Nat × Cursor) :=
  let digits := c.rest.takeWhile Char.isDigit
  if digits.isEmpty || 9 < digits.length then none
  else some (Text.digitsValue 10 digits, c.skip digits.length)

/-- Characters of a tag. Commas and brackets count only between angle brackets. -/
private def isTagChar (bracketed : Bool) (c : Char) : Bool :=
  isWordChar c || ";/?:@&=+$.!~*'()".toList.contains c ||
    (bracketed && (c == ',' || c == '[' || c == ']'))

/-- A byte written as a percent sign and two hexadecimal digits. -/
private def scanByte (c : Cursor) : Option (Nat × Cursor) := do
  if !c.has 0 '%' then failure
  let high ← (c.peek 1).bind Text.hexValue?
  let low ← (c.peek 2).bind Text.hexValue?
  return (16 * high + low, c.skip 3)

/-- The bytes that follow the first one of a character; each adds six bits to its code point. -/
private def scanFollowing : Nat → Nat → Cursor → Option (Nat × Cursor)
  | 0, point, c => some (point, c)
  | left + 1, point, c => do
    let (byte, c) ← scanByte c
    if byte / 64 ≠ 2 then failure
    scanFollowing left (64 * point + byte % 64) c

/-- A character written byte by byte. The first byte tells how many follow. -/
private def scanBytes (c : Cursor) : Option (Char × Cursor) := do
  let (byte, c) ← scanByte c
  let (point, c) ←
    if byte < 128 then some (byte, c)
    else if byte / 32 = 6 then scanFollowing 1 (byte % 32) c
    else if byte / 16 = 14 then scanFollowing 2 (byte % 16) c
    else if byte / 8 = 30 then scanFollowing 3 (byte % 8) c
    else none
  return ((Text.charOfCodePoint? point).getD '\ufffd', c)

private def scanTagChars (bracketed : Bool) : Nat → List Char → Cursor → Option (String × Cursor)
  | 0, text, c => some (String.ofList text, c)
  | fuel + 1, text, c =>
    match c.peek 0 with
    | some char =>
      if char == '%' then
        match scanBytes c with
        | some (written, c') => scanTagChars bracketed fuel (text ++ [written]) c'
        | none => none
      else if isTagChar bracketed char then
        scanTagChars bracketed fuel (text ++ [char]) (c.skip 1)
      else some (String.ofList text, c)
    | none => some (String.ofList text, c)

/-- A tag's text, in which percent signs mark bytes. -/
private def scanTagText (bracketed : Bool) (c : Cursor) : Option (String × Cursor) :=
  scanTagChars bracketed c.rest.length [] c

/-- A handle: an exclamation mark, a word, and a second mark if there is one. -/
private def scanHandle (c : Cursor) : Option (String × Cursor) :=
  if c.has 0 '!' then
    let word := (c.rest.drop 1).takeWhile isWordChar
    let c' := c.skip (1 + word.length)
    if c'.has 0 '!' then some (String.ofList ('!' :: word ++ ['!']), c'.skip 1)
    else some (String.ofList ('!' :: word), c')
  else none

private def scanDirective (c : Cursor) : Option (Token × Cursor) := do
  let name := (c.rest.drop 1).takeWhile isWordChar
  let c := c.skip (1 + name.length)
  if !c.atGap 0 then failure
  let c := c.skipWhile isBlank
  if name = "YAML".toList then
    let (major, c) ← scanNumber c
    if !c.has 0 '.' then failure
    let (minor, c) ← scanNumber (c.skip 1)
    return (.versionDirective major minor, ← endDirective c)
  else if name = "TAG".toList then
    let (handle, c) ← scanHandle c
    if handle ≠ "!" && !handle.endsWith "!" then failure
    if !c.atBlank then failure
    let (tagText, c) ← scanTagText true (c.skipWhile isBlank)
    if tagText.isEmpty || !c.atGap 0 then failure
    return (.tagDirective handle tagText, ← endDirective c)
  else failure

/-- The name of an anchor or an alias, behind its mark. -/
private def scanName (c : Cursor) : Option (String × Cursor) :=
  let name := (c.rest.drop 1).takeWhile isWordChar
  let c := c.skip (1 + name.length)
  let ends := c.atGap 0 || (c.peek 0).any fun d => "?:,]\x7d%@\x60".toList.contains d
  if name.isEmpty || !ends then none else some (String.ofList name, c)

private def scanTag (c : Cursor) (inFlow : Bool) : Option (Token × Cursor) := do
  let (name, c) ←
    if c.has 1 '<' then
      let (text, c) ← scanTagText true (c.skip 2)
      if text.isEmpty || !c.has 0 '>' then none else some (TagName.mk "" text, c.skip 1)
    else do
      let (handle, c) ← scanHandle c
      let (text, c) ← scanTagText false c
      if handle.length > 1 && handle.endsWith "!" then
        if text.isEmpty then none else some (TagName.mk handle text, c)
      else
        let suffix := String.ofList (handle.toList.drop 1) ++ text
        some (if suffix.isEmpty then ⟨"", "!"⟩ else ⟨"!", suffix⟩, c)
  if c.atGap 0 || (inFlow && c.has 0 ',') then return (.tag name, c) else failure

/-! ### The next token -/

private def fetchDocumentMark (l : Lexer) (token : Token) : Option Lexer := do
  let l ← (l.unroll (-1)).dropKey
  return { (l.emit token).move (l.cursor.skip 3) with keyAllowed := false }

private def fetchFlowStart (l : Lexer) (token : Token) : Option Lexer := do
  let l ← l.saveKey
  return { (l.emit token).move (l.cursor.skip 1) with
    keyPlace := none
    outerKeys := l.keyPlace :: l.outerKeys
    keyAllowed := true }

private def fetchFlowEnd (l : Lexer) (token : Token) : Option Lexer := do
  let l ← l.dropKey
  return { (l.emit token).move (l.cursor.skip 1) with
    keyPlace := l.outerKeys.headD none
    outerKeys := l.outerKeys.tail
    keyAllowed := false }

private def fetchFlowEntry (l : Lexer) : Option Lexer := do
  let l ← l.dropKey
  return { (l.emit .flowEntry).move (l.cursor.skip 1) with keyAllowed := true }

private def fetchBlockEntry (l : Lexer) : Option Lexer := do
  if !l.inFlow && !l.keyAllowed then failure
  let l ← (l.roll l.cursor.column l.tokens.length .blockSequenceStart).dropKey
  return { (l.emit .blockEntry).move (l.cursor.skip 1) with keyAllowed := true }

private def fetchKey (l : Lexer) : Option Lexer := do
  if !l.inFlow && !l.keyAllowed then failure
  let l ← (l.roll l.cursor.column l.tokens.length .blockMappingStart).dropKey
  return { (l.emit .key).move (l.cursor.skip 1) with keyAllowed := !l.inFlow }

private def fetchValue (l : Lexer) : Option Lexer :=
  match l.keyPlace with
  | some key =>
    let tokens := l.tokens.take key.position ++ .key :: l.tokens.drop key.position
    let l := { l with tokens }.roll key.column key.position .blockMappingStart
    some { (l.emit .value).move (l.cursor.skip 1) with keyPlace := none, keyAllowed := false }
  | none => do
    if !l.inFlow && !l.keyAllowed then failure
    let l := l.roll l.cursor.column l.tokens.length .blockMappingStart
    return { (l.emit .value).move (l.cursor.skip 1) with keyAllowed := !l.inFlow }

/-- A token that a key may begin with. -/
private def fetchKeyable (l : Lexer) (scanned : Option (Token × Cursor)) : Option Lexer := do
  let l ← l.saveKey
  let (token, cursor) ← scanned
  return { (l.emit token).move cursor with keyAllowed := false }

private def fetchBlockScalar (l : Lexer) (literal : Bool) : Option Lexer := do
  let l ← l.dropKey
  let (token, cursor) ← scanBlock literal l.indent l.cursor
  return { (l.emit token).move cursor with keyAllowed := true }

private def fetchPlain (l : Lexer) : Option Lexer := do
  let l ← l.saveKey
  let (token, cursor, broken) ← scanPlain (l.indent + 1) l.inFlow l.cursor
  return { (l.emit token).move cursor with keyAllowed := broken }

/-- Characters that mean something at the start of a token. -/
private def isIndicator (c : Char) : Bool := "-?:,[]\x7b\x7d#&*!|>'\"%@\x60".toList.contains c

/-- Reads the token that starts with the given character. -/
private def fetchToken (l : Lexer) (char : Char) : Option Lexer :=
  let c := l.cursor
  let mark := l.inFlow || c.atGap 1
  if c.column == 0 && char == '%' then do
    let l ← (l.unroll (-1)).dropKey
    let (token, cursor) ← scanDirective c
    return { (l.emit token).move cursor with keyAllowed := false }
  else if c.atDocumentMark '-' then l.fetchDocumentMark .documentStart
  else if c.atDocumentMark '.' then l.fetchDocumentMark .documentEnd
  else if char == '[' then l.fetchFlowStart .flowSequenceStart
  else if char == '{' then l.fetchFlowStart .flowMappingStart
  else if char == ']' then l.fetchFlowEnd .flowSequenceEnd
  else if char == '}' then l.fetchFlowEnd .flowMappingEnd
  else if char == ',' then l.fetchFlowEntry
  else if char == '-' && c.atGap 1 then l.fetchBlockEntry
  else if char == '?' && mark then l.fetchKey
  else if char == ':' && mark then l.fetchValue
  else if char == '*' then
    l.fetchKeyable ((scanName c).map fun (name, c') => (.alias name, c'))
  else if char == '&' then
    l.fetchKeyable ((scanName c).map fun (name, c') => (.anchor name, c'))
  else if char == '!' then l.fetchKeyable (scanTag c l.inFlow)
  else if (char == '|' || char == '>') && !l.inFlow then l.fetchBlockScalar (char == '|')
  else if char == '\'' || char == '"' then l.fetchKeyable (scanQuoted (char == '\'') c)
  else if !(isIndicator char || isBlank char)
      || (char == '-' && !((c.peek 1).any isBlank))
      || (!l.inFlow && (char == '?' || char == ':') && !c.atGap 1) then
    l.fetchPlain
  else none

/-- Reads all tokens. -/
private def run : Nat → Lexer → Option (List Token)
  | 0, _ => none
  | fuel + 1, l => do
    let l ← (skipToToken (l.cursor.rest.length + 1) l).dropStaleKeys
    let l := l.unroll l.cursor.column
    match l.cursor.peek 0 with
    | none => return (← (l.unroll (-1)).dropKey).tokens
    | some char => run fuel (← l.fetchToken char)

end Lexer

/-- Characters that may stand in a file at all. -/
private def isAllowed (c : Char) : Bool :=
  c == '\t' || c == '\n' || c == '\r' || (' ' ≤ c && c ≤ '~') || c == '\x85' ||
    ('\xa0' ≤ c && c ≠ '\ufffe' && c ≠ '\uffff')

/-- The tokens of a text, if it can be cut into tokens. -/
def lex? (text : String) : Option (List Token) :=
  let chars := text.toList
  if chars.all isAllowed then
    Lexer.run (chars.length + 1) { cursor := ⟨chars, 0, 0, 0⟩ }
  else none

end RecordFilter.Yaml
