import RecordFilter.Yaml.Lexer

set_option autoImplicit false

/-!
Indented settings files as trees of scalars, sequences and mappings. A file holds one document,
which may be empty.

Anchors are numbered: each gets the number of different names before it. An alias has the number of
the last anchor of its name before it, and stands for the last node of the document with that
number. So a name that is used again shares its number with the next new name.
-/

namespace RecordFilter.Yaml

inductive Node where
  | scalar (tag : Option String) (text : String) (style : ScalarStyle)
  | sequence (tag : Option String) (items : List Node)
  | mapping (tag : Option String) (entries : List (Node × Node))
  /-- Another node of the document, by the number of its anchor. -/
  | alias (number : Nat)

instance : Inhabited Node := ⟨.scalar none "" .plain⟩

/-- The node where nothing was written. -/
def Node.empty : Node := .scalar none "" .plain

structure Document where
  /-- The document's node, absent in an empty file. -/
  root : Option Node
  /-- The nodes with anchors, in order, with their numbers. -/
  anchored : List (Nat × Node)

/-- The node itself, or the one that an alias stands for. -/
def Document.resolve (document : Document) : Node → Node
  | .alias number => (document.anchored.reverse.lookup number).getD .empty
  | node => node

/-- The tokens left, the numbers of anchor names, the nodes with anchors, and the handles that tags
may use. -/
structure NodeState where
  tokens : List Token
  numbers : List (String × Nat) := []
  anchored : List (Nat × Node) := []
  handles : List (String × String) := []

abbrev NodeReader := StateT NodeState Option

namespace NodeReader

def peek : NodeReader (Option Token) := return (← get).tokens.head?

def advance : NodeReader Unit := modify fun s => { s with tokens := s.tokens.tail }

/-- Passes a token if it is next, and says whether it was. -/
def take (token : Token) : NodeReader Bool := do
  if (← peek) = some token then advance; return true else return false

def expect (token : Token) : NodeReader Unit := do
  if !(← take token) then failure

/-- Whether one of some tokens is next. -/
def nextIs (tokens : List Token) : NodeReader Bool := do
  match ← peek with
  | some token => return tokens.contains token
  | none => return false

/-- The tag in full. -/
def resolveTag (name : TagName) : NodeReader String := do
  if name.handle = "" then return name.suffix
  match (← get).handles.lookup name.handle with
  | some start => return start ++ name.suffix
  | none => failure

private def readAnchor : NodeReader (Option String) := do
  match ← peek with
  | some (.anchor name) => advance; return some name
  | _ => return none

private def readTag : NodeReader (Option String) := do
  match ← peek with
  | some (.tag name) => advance; return some (← resolveTag name)
  | _ => return none

/-- An anchor and a tag, in either order. -/
private def readProperties : NodeReader (Option String × Option String) := do
  match ← readAnchor with
  | some anchor => return (some anchor, ← readTag)
  | none =>
    let tag ← readTag
    return (← readAnchor, tag)

/-- Numbers an anchor, and keeps a place for its node. -/
private def reserve (anchor : String) : NodeReader Nat := do
  let s ← get
  let number := s.numbers.length
  set { s with
    numbers := (anchor, number) :: s.numbers.filter (·.1 ≠ anchor)
    anchored := s.anchored ++ [(number, Node.empty)] }
  return s.anchored.length

/-- Puts a node into its place. -/
private def fill (place : Nat) (node : Node) : NodeReader Unit :=
  modify fun s => { s with
    anchored := s.anchored.modify place fun entry => (entry.1, node) }

mutual

/-- One node. Outside of flow collections it may be a block; as a value in a mapping it may be a
sequence that is not indented. -/
private def node (block unindented : Bool) : Nat → NodeReader Node
  | 0 => failure
  | fuel + 1 => do
    if let some (.alias name) ← peek then
      advance
      match (← get).numbers.lookup name with
      | some number => return .alias number
      | none => failure
    let (anchor, tag) ← readProperties
    let place ← anchor.mapM reserve
    let result ← content block unindented (anchor.isSome || tag.isSome) tag fuel
    if let some place := place then fill place result
    return result

/-- What follows the properties of a node. A tag that is only a mark says nothing of a scalar. -/
private def content (block unindented mayBeEmpty : Bool) (tag : Option String) :
    Nat → NodeReader Node
  | 0 => failure
  | fuel + 1 => do
    match ← peek with
    | some .blockEntry =>
      if unindented then return .sequence tag (← unindentedItems fuel)
      else if mayBeEmpty then return .scalar tag "" .plain
      else failure
    | some (.scalar text style) => advance; return .scalar (tag.filter (· ≠ "!")) text style
    | some .flowSequenceStart => advance; return .sequence tag (← flowItems true fuel)
    | some .flowMappingStart => advance; return .mapping tag (← flowEntries true fuel)
    | some .blockSequenceStart =>
      if block then advance; return .sequence tag (← blockItems fuel)
      else if mayBeEmpty then return .scalar tag "" .plain
      else failure
    | some .blockMappingStart =>
      if block then advance; return .mapping tag (← blockEntries fuel)
      else if mayBeEmpty then return .scalar tag "" .plain
      else failure
    | _ => if mayBeEmpty then return .scalar tag "" .plain else failure

/-- A node, or nothing where one of the given tokens follows. -/
private def nodeUnless (ends : List Token) (block unindented : Bool) : Nat → NodeReader Node
  | 0 => failure
  | fuel + 1 => do
    if (← nextIs ends) || (← peek).isNone then return .empty
    else node block unindented fuel

private def blockItems : Nat → NodeReader (List Node)
  | 0 => failure
  | fuel + 1 => do
    if ← take .blockEntry then
      let item ← nodeUnless [.blockEntry, .blockEnd] true false fuel
      return item :: (← blockItems fuel)
    else
      expect .blockEnd
      return []

private def unindentedItems : Nat → NodeReader (List Node)
  | 0 => failure
  | fuel + 1 => do
    if ← take .blockEntry then
      let item ← nodeUnless [.blockEntry, .key, .value, .blockEnd] true false fuel
      return item :: (← unindentedItems fuel)
    else return []

private def blockEntries : Nat → NodeReader (List (Node × Node))
  | 0 => failure
  | fuel + 1 => do
    let ends := [.key, .value, .blockEnd]
    if ← take .key then
      let key ← nodeUnless ends true true fuel
      let value ← if ← take .value then nodeUnless ends true true fuel else pure .empty
      return (key, value) :: (← blockEntries fuel)
    else
      expect .blockEnd
      return []

/-- The items of a sequence in brackets. A marked key that is empty takes the token behind it along,
be it even the bracket that ends the sequence. -/
private def flowItems (first : Bool) : Nat → NodeReader (List Node)
  | 0 => failure
  | fuel + 1 => do
    if ← take .flowSequenceEnd then return []
    if !first then expect .flowEntry
    if ← take .flowSequenceEnd then return []
    if ← take .key then
      let isEmpty ← nextIs [.value, .flowEntry, .flowSequenceEnd]
      if isEmpty then advance
      let key ← if isEmpty then pure .empty else node false false fuel
      let value ←
        if ← take .value then nodeUnless [.flowEntry, .flowSequenceEnd] false false fuel
        else pure .empty
      return .mapping none [(key, value)] :: (← flowItems false fuel)
    else
      let item ← node false false fuel
      return item :: (← flowItems false fuel)

private def flowEntries (first : Bool) : Nat → NodeReader (List (Node × Node))
  | 0 => failure
  | fuel + 1 => do
    if ← take .flowMappingEnd then return []
    if !first then expect .flowEntry
    if ← take .flowMappingEnd then return []
    if ← take .key then
      let key ← nodeUnless [.value, .flowEntry, .flowMappingEnd] false false fuel
      let value ←
        if ← take .value then nodeUnless [.flowEntry, .flowMappingEnd] false false fuel
        else pure .empty
      return (key, value) :: (← flowEntries false fuel)
    else
      let key ← node false false fuel
      return (key, .empty) :: (← flowEntries false fuel)

end

/-- The directives before a document, of which one may give the version. -/
private def directives (versioned : Bool) : Nat → NodeReader Bool
  | 0 => failure
  | fuel + 1 => do
    match ← peek with
    | some (.versionDirective major minor) =>
      if versioned || major ≠ 1 || (minor ≠ 1 && minor ≠ 2) then failure
      advance
      discard (directives true fuel)
      return true
    | some (.tagDirective handle tagText) =>
      advance
      if ((← get).handles.lookup handle).isSome then failure
      modify fun s => { s with handles := s.handles ++ [(handle, tagText)] }
      discard (directives versioned fuel)
      return true
    | _ => return false

private def documentEnds : Nat → NodeReader Unit
  | 0 => pure ()
  | fuel + 1 => do if ← take .documentEnd then documentEnds fuel

/-- The node of the only document, absent in an empty file. -/
private def root? (fuel : Nat) : NodeReader (Option Node) := do
  if (← peek).isNone then return none
  let directed ← directives false fuel
  let explicit ← take .documentStart
  if directed && !explicit then failure
  modify fun s => { s with
    handles := s.handles ++ [("!", "!"), ("!!", "tag:yaml.org,2002:")] }
  let bare ← if explicit then pure ((← peek).isNone || (← nextIs [.documentStart, .documentEnd]))
    else pure false
  let result ← if bare then pure .empty else node true false fuel
  documentEnds fuel
  if (← peek).isSome then failure
  return some result

end NodeReader

/-- The document of a file, if it is well formed. -/
def parse? (text : String) : Option Document := do
  let tokens ← lex? text
  let (root, state) ← (NodeReader.root? (6 * tokens.length + 6)).run { tokens }
  return ⟨root, state.anchored⟩

end RecordFilter.Yaml
