import RecordFilter.Settings.Basic
import RecordFilter.Toml.Document
import RecordFilter.Yaml.Node

set_option autoImplicit false

/-!
Settings read from files, in either of two notations. Keys that are no setting are passed over,
settings that are missing keep their defaults, and a setting is given at most once. An operator
may also be given by a table or a tag that carries its name and nothing else.
-/

namespace RecordFilter.Settings

/-! ### Key-value notation -/

/-- Whether an item is a table or an array with nothing in it. -/
private def isVacant : Toml.Item → Bool
  | .array items => items.isEmpty
  | .tables items => items.isEmpty
  | .inlineTable entries | .table _ entries => entries.isEmpty
  | _ => false

/-- The name an item stands for. -/
private def tomlName? : Toml.Item → Option String
  | .string s => some s
  | .inlineTable [(name, item)] | .table _ [(name, item)] =>
    if isVacant item then some name else none
  | _ => none

private def tomlFlag? : Toml.Item → Option Bool
  | .boolean b => some b
  | _ => none

/-- The setting of a key; the default if the key is missing, nothing if its item does not fit. -/
private def tomlSetting {α : Type} (entries : Toml.Entries) (key : String) (default : α)
    (read : Toml.Item → Option α) : Option α :=
  match entries.lookup key with
  | none => some default
  | some item => read item

private def ofEntries? (entries : Toml.Entries) : Option Settings := do
  let defaultStringOp ← tomlSetting entries "default_string_op" .equal fun item =>
    (tomlName? item).bind StringOp.ofName?
  let stringComparison ← tomlSetting entries "string_comparison" .caseSensitive fun item =>
    (tomlName? item).bind StringComparison.ofName?
  let autoRegister ← tomlSetting entries "auto_register" false tomlFlag?
  let lazy ← tomlSetting entries "lazy" false tomlFlag?
  return { defaultStringOp, stringComparison, autoRegister, lazy }

/-- Settings in key-value notation. -/
def ofToml (text : String) : Except SettingsError Settings :=
  match (Toml.parse? text).bind ofEntries? with
  | some settings => settings.validate
  | none => .error .toml

/-! ### Indented notation -/

private def booleanTag : String := "tag:yaml.org,2002:bool"

private def flagOfText? (text : String) : Option Bool :=
  if ["true", "True", "TRUE"].contains text then some true
  else if ["false", "False", "FALSE"].contains text then some false
  else none

/-- The truth value of a scalar, which is not quoted. -/
private def yamlFlag? : Yaml.Node → Option Bool
  | .scalar _ text .plain => flagOfText? text
  | .scalar tag text .literal => if tag = some booleanTag then flagOfText? text else none
  | _ => none

private def isNullText (text : String) : Bool :=
  ["", "~", "null", "Null", "NULL"].contains text

/-- The name a node stands for: its text, or its own tag when there is nothing behind it. -/
private def yamlName? : Yaml.Node → Option String
  | .scalar tag text style =>
    match tag.map (·.toList) with
    | some ('!' :: name) =>
      if style = .plain && isNullText text then some (String.ofList name) else none
    | _ => some text
  | _ => none

/-- The text of a key. -/
private def keyText? : Yaml.Node → Option String
  | .scalar _ text _ => some text
  | _ => none

private structure Given where
  defaultStringOp : Option StringOp := none
  stringComparison : Option StringComparison := none
  autoRegister : Option Bool := none
  lazy : Option Bool := none

/-- Takes in one entry of a document's mapping. -/
private def Given.add (document : Yaml.Document) (given : Given) (entry : Yaml.Node × Yaml.Node) :
    Option Given := do
  let value := document.resolve entry.2
  match ← keyText? (document.resolve entry.1) with
  | "default_string_op" =>
    if given.defaultStringOp.isSome then failure
    return { given with defaultStringOp := some (← (yamlName? value).bind StringOp.ofName?) }
  | "string_comparison" =>
    if given.stringComparison.isSome then failure
    return { given with
      stringComparison := some (← (yamlName? value).bind StringComparison.ofName?) }
  | "auto_register" =>
    if given.autoRegister.isSome then failure
    return { given with autoRegister := some (← yamlFlag? value) }
  | "lazy" =>
    if given.lazy.isSome then failure
    return { given with lazy := some (← yamlFlag? value) }
  | _ => return given

private def Given.settings (given : Given) : Settings where
  defaultStringOp := given.defaultStringOp.getD .equal
  stringComparison := given.stringComparison.getD .caseSensitive
  autoRegister := given.autoRegister.getD false
  lazy := given.lazy.getD false

/-- The settings of a document; one with nothing in it has the defaults. -/
private def ofDocument? (document : Yaml.Document) : Option Settings :=
  match document.root with
  | none | some (.scalar _ "" .plain) => some {}
  | some (.mapping _ entries) => (entries.foldlM (Given.add document) {}).map Given.settings
  | _ => none

/-- Settings in indented notation. -/
def ofYaml (text : String) : Except SettingsError Settings :=
  match (Yaml.parse? text).bind ofDocument? with
  | some settings => settings.validate
  | none => .error .yaml

/-! ### Files -/

/-- The notation a settings file is written in. -/
inductive FileFormat where
  | toml | yaml
  deriving DecidableEq, Repr

/-- Settings from text in a notation. -/
def FileFormat.read : FileFormat → String → Except SettingsError Settings
  | toml => ofToml
  | yaml => ofYaml

/-- Settings from a file's content, absent if there is no such file. -/
def ofFile (format : FileFormat) (content : Option String) : Except SettingsError Settings :=
  match content with
  | some text => format.read text
  | none => .error .unreadableFile

/-- Settings from a file of whose notation nothing is said. -/
def load (content : Option String) : Except SettingsError Settings := ofFile .toml content

end RecordFilter.Settings
