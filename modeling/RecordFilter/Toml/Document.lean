import RecordFilter.Toml.Scalar

set_option autoImplicit false

/-!
Settings files in key-value form as trees of tables. A table is made by a header, as the parent
of a headed table, by dotted keys, or in line; how it was made decides whether it may be extended
later. A key is set at most once.
-/

namespace RecordFilter.Toml

open Text (Parser)
open Text.Parser

inductive TableKind where
  /-- Made by its own header, or in line. -/
  | explicit
  /-- The parent of a table that has a header. -/
  | parent
  /-- Made by a dotted key. -/
  | dotted
  deriving DecidableEq, Repr

inductive Item where
  | string (s : String)
  | boolean (b : Bool)
  /-- A number or a date. -/
  | scalar
  | array (items : List Item)
  | inlineTable (entries : List (String × Item))
  | table (kind : TableKind) (entries : List (String × Item))
  /-- Tables that share a header in double brackets. -/
  | tables (items : List (List (String × Item)))

abbrev Entries := List (String × Item)

/-- Replaces the item of a key, or adds it. -/
def put (key : String) (item : Item) : Entries → Entries
  | [] => [(key, item)]
  | (k, old) :: rest => if k = key then (key, item) :: rest else (k, old) :: put key item rest

/-- Sets a key under a path of dotted keys. A table made by a header is not reopened, a table
made by dotted keys takes only dotted keys, and no key is set twice. -/
def setDotted : List String → String → Item → TableKind → Entries → Option Entries
  | [], key, item, _, entries =>
    if (entries.lookup key).isSome then none else some (entries ++ [(key, item)])
  | [step], key, item, _, entries =>
    match entries.lookup step with
    | none => some (put step (.table .dotted [(key, item)]) entries)
    | some (.table .dotted inner) => do
      return put step (.table .dotted (← setDotted [] key item .dotted inner)) entries
    | _ => none
  | step :: path, key, item, _, entries =>
    match entries.lookup step with
    | none => do
      return put step (.table .dotted (← setDotted path key item .dotted [])) entries
    | some (.table .explicit _) => none
    | some (.table kind inner) => do
      return put step (.table kind (← setDotted path key item kind inner)) entries
    | some (.tables items) => do
      let last ← items.getLast?
      let extended ← setDotted path key item .explicit last
      return put step (.tables (items.dropLast ++ [extended])) entries
    | _ => none

/-- A key and its value, with the dotted keys before it. -/
structure Setting where
  path : List String
  key : String
  item : Item

def Setting.addTo (entries : Entries) (setting : Setting) : Option Entries :=
  setDotted setting.path setting.key setting.item .explicit entries

/-! ### Values -/

private def bareKeyChar (c : Char) : Bool := c.isAlphanum || c == '_' || c == '-'

private def simpleKey : Parser String :=
  basicString <|> literalString <|> do
    let first ← satisfy bareKeyChar
    return String.ofList (first :: (← span bareKeyChar))

/-- Tables and arrays may be nested below this depth. -/
private def depthLimit : Nat := 80

/-- Keys with dots between them, fewer than the depth limit. -/
private def dottedKey : Parser (List String) := do
  let keys ← separated (blanks *> simpleKey <* blanks) (char '.')
  if keys.length < depthLimit then return keys else failure

/-- Space, line ends and comments between the items of an array. -/
private def arraySpace : Parser Unit :=
  discard (many (discard (satisfy isBlank) <|> newline <|> (comment *> newline)))

private def setting (value : Parser Item) : Parser Setting := do
  let keys ← dottedKey
  char '='
  blanks
  let item ← value
  blanks
  match keys.getLast? with
  | some key => return ⟨keys.dropLast, key, item⟩
  | none => failure

private def arrayOf (value : Parser Item) : Parser Item := do
  char '['
  arraySpace
  let items ← optional (separated (value <* arraySpace) (char ',' *> arraySpace))
  if items.isSome then
    discard (optional (char ','))
    arraySpace
  char ']'
  return .array (items.getD [])

private def inlineTableOf (value : Parser Item) : Parser Item := do
  char '\x7b'
  blanks
  let settings ← optional (separated (setting value) (char ','))
  blanks
  char '\x7d'
  match (settings.getD []).foldlM Setting.addTo [] with
  | some entries => return .inlineTable entries
  | none => failure

private def scalarItem : Parser Item :=
  Item.string <$> string <|> Item.boolean <$> boolean <|> (plainScalar *> pure .scalar)

/-- A value nested no deeper than the given number. -/
private def valueWithin : Nat → Parser Item
  | 0 => scalarItem
  | depth + 1 =>
    arrayOf (valueWithin depth) <|> inlineTableOf (valueWithin depth) <|> scalarItem

/-! ### Lines -/

inductive Line where
  | setting (setting : Setting)
  | header (path : List String)
  | arrayHeader (path : List String)
  | empty

private def lineBody : Parser Line := do
  match ← peek 2 with
  | ['[', '['] =>
    exactly "[["
    let path ← dottedKey
    exactly "]]"
    return .arrayHeader path
  | '[' :: _ =>
    char '['
    let path ← dottedKey
    char ']'
    return .header path
  | _ => (Line.setting <$> setting (valueWithin (depthLimit - 1))) <|> pure .empty

private def line : Parser Line := do
  blanks
  let body ← lineBody
  blanks
  discard (optional comment)
  return body

private def lines : Parser (List Line) := do
  discard (optional (char '\ufeff'))
  separated line newline

/-! ### Sections -/

/-- Applies a change to what a key path of a header leads to. Tables on the way come into being
when they are missing; of tables that share a header the last one is meant. -/
def changeAt (change : Option Item → Option Item) : List String → Entries → Option Entries
  | [], _ => none
  | [key], entries => do return put key (← change (entries.lookup key)) entries
  | step :: path, entries =>
    match entries.lookup step with
    | none => do return put step (.table .parent (← changeAt change path [])) entries
    | some (.table kind inner) => do
      return put step (.table kind (← changeAt change path inner)) entries
    | some (.tables items) => do
      let last ← items.getLast?
      return put step (.tables (items.dropLast ++ [← changeAt change path last])) entries
    | _ => none

/-- The table under a header, which may go on with a table that so far was only a parent. -/
private def headed (settings : List Setting) : Option Item → Option Item
  | none => do return .table .explicit (← settings.foldlM Setting.addTo [])
  | some (.table .parent entries) => do
    return .table .explicit (← settings.foldlM Setting.addTo entries)
  | _ => none

/-- One more table under a header in double brackets. -/
private def headedAgain (settings : List Setting) : Option Item → Option Item
  | none => do return .tables [← settings.foldlM Setting.addTo []]
  | some (.tables items) => do return .tables (items ++ [← settings.foldlM Setting.addTo []])
  | _ => none

/-- A header, none for the start of the file, and the settings under it. -/
structure Section where
  header : Option Line
  settings : List Setting

private def Section.addTo (entries : Entries) (part : Section) : Option Entries :=
  match part.header with
  | some (.header path) => changeAt (headed part.settings) path entries
  | some (.arrayHeader path) => changeAt (headedAgain part.settings) path entries
  | _ => part.settings.foldlM Setting.addTo entries

/-- Groups lines under their headers. -/
private def toSections : List Line → List Section
  | [] => [⟨none, []⟩]
  | line :: rest =>
    match line, toSections rest with
    | .setting s, ⟨none, settings⟩ :: sections => ⟨none, s :: settings⟩ :: sections
    | .header path, ⟨none, settings⟩ :: sections =>
      ⟨none, []⟩ :: ⟨some (.header path), settings⟩ :: sections
    | .arrayHeader path, ⟨none, settings⟩ :: sections =>
      ⟨none, []⟩ :: ⟨some (.arrayHeader path), settings⟩ :: sections
    | _, sections => sections

/-- The entries of a file, if it is well formed. -/
def parse? (text : String) : Option Entries := do
  (toSections (← lines.parse? text.toList)).foldlM Section.addTo []

end RecordFilter.Toml
