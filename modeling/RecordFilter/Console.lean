import RecordFilter.Event

set_option autoImplicit false

/-!
Coloured lines for a terminal. Events of other programs are passed over. The fields of an event are
gathered by name, and each kind of event has its line; what is no known kind has none. A line starts
with the time that has passed, which stays at zero as long as no clock was started.
-/

namespace RecordFilter

/-- The known fields of an event, as far as they were recorded. -/
structure Recorded where
  event : Option String := none
  entity : Option String := none
  filter : Option String := none
  binding : Option String := none
  property : Option String := none
  entityType : Option String := none
  filterType : Option String := none
  bindings : Option Nat := none
  explicit : Option Nat := none
  discovered : Option Nat := none
  registrations : Option Nat := none
  lazy : Option Bool := none
  autoRegister : Option Bool := none
  deriving DecidableEq, Repr

namespace Recorded

def setText (r : Recorded) (name s : String) : Recorded :=
  match name with
  | "event" => { r with event := some s }
  | "entity" => { r with entity := some s }
  | "filter" => { r with filter := some s }
  | "binding" => { r with binding := some s }
  | "property" => { r with property := some s }
  | "entity_type" => { r with entityType := some s }
  | "filter_type" => { r with filterType := some s }
  | _ => r

def setCount (r : Recorded) (name : String) (n : Nat) : Recorded :=
  match name with
  | "bindings" => { r with bindings := some n }
  | "explicit" => { r with explicit := some n }
  | "discovered" => { r with discovered := some n }
  | "registrations" => { r with registrations := some n }
  | _ => r

def setFlag (r : Recorded) (name : String) (b : Bool) : Recorded :=
  match name with
  | "lazy" => { r with lazy := some b }
  | "auto_register" => { r with autoRegister := some b }
  | _ => r

/-- Text without the double quotes at its ends. -/
def unquoted (s : String) : String :=
  let isQuote (c : Char) := c == '"'
  String.ofList (((s.toList.dropWhile isQuote).reverse.dropWhile isQuote).reverse)

/-- Records a field. The text of a value loses the quotes at its ends, a negative count is zero,
and fields of unknown names are passed over. -/
def record (r : Recorded) (field : String × FieldValue) : Recorded :=
  match field.2 with
  | .text s => r.setText field.1 s
  | .shown s => r.setText field.1 (unquoted s)
  | .count n => r.setCount field.1 n
  | .signed n => r.setCount field.1 n.toNat
  | .flag b => r.setFlag field.1 b

def ofFields (fields : List (String × FieldValue)) : Recorded := fields.foldl record {}

end Recorded

namespace Console

inductive Colour where
  | brightBlack | brightRed | brightGreen | brightYellow | brightBlue | brightMagenta
  | brightCyan | brightWhite | white
  deriving DecidableEq, Repr

def Colour.code : Colour → Nat
  | brightBlack => 90
  | brightRed => 91
  | brightGreen => 92
  | brightYellow => 93
  | brightBlue => 94
  | brightMagenta => 95
  | brightCyan => 96
  | brightWhite => 97
  | white => 37

/-- Text in a colour, after which the colour is the default one again. -/
def coloured (colour : Colour) (s : String) : String :=
  "\x1b[" ++ toString colour.code ++ "m" ++ s ++ "\x1b[39m"

def bold (s : String) : String := "\x1b[1m" ++ s ++ "\x1b[0m"

/-- The time on a clock that was never started. -/
def elapsed : String := coloured .brightBlack "  0.000s"

def number (n : Option Nat) : String := coloured .brightYellow (toString (n.getD 0))

def named (name : Option String) : String := bold (coloured .white (name.getD "?"))

def pairText (r : Recorded) : String := named r.entity ++ " / " ++ named r.filter

def line (icon rest : String) : String := elapsed ++ " " ++ icon ++ " " ++ rest

def bindingLine (r : Recorded) (icon : String) : String :=
  line (coloured .brightBlue icon)
    (pairText r ++ " │ " ++ coloured .brightWhite (r.binding.getD ""))

def faint (s : Option String) : String := coloured .brightBlack (s.getD "?")

/-- The line for an event. Skipped bindings are shown as traces only. -/
def render? (r : Recorded) (level : Level) : Option String :=
  match r.event with
  | some "registration" => some <|
    line (bold (coloured .brightGreen "▶"))
      ("Registered " ++ pairText r ++ " │ " ++ number r.explicit ++ " explicit │ " ++
        number r.discovered ++ " discovered") ++
      (if r.lazy = some true then " │ " ++ coloured .brightMagenta "lazy" else "")
  | some "build" => some <|
    line (bold (coloured .brightCyan "■"))
      ("Registry ready │ " ++ number r.registrations ++ " registrations │ " ++
        (if r.autoRegister = some true then coloured .brightMagenta "auto-register"
          else coloured .white "explicit only"))
  | some "auto_register" => some <|
    line (coloured .brightCyan "⚡")
      ("Auto-registered " ++ pairText r ++ " │ " ++ number r.bindings ++ " bindings")
  | some "binding" => some (bindingLine r "+")
  | some "auto_discovery" => some (bindingLine r "~")
  | some "compile" => some <|
    line (coloured .brightBlue "◆")
      ("Compiled " ++ pairText r ++ " │ " ++ number r.bindings ++ " bindings")
  | some "not_registered" => some <|
    line (coloured .brightRed "✗") ("No filter for " ++ pairText r)
  | some "binding_skipped" =>
    if level = .trace then some <|
      line (faint "·")
        ("Skipped " ++ faint r.property ++ " │ " ++ faint r.entityType ++ " vs " ++
          faint r.filterType)
    else none
  | _ => none

/-- Text cut at its line ends. -/
def splitLines (s : String) : List String :=
  let endless (piece : List Char) := if piece.getLast? = some '\r' then piece.dropLast else piece
  match (s.toList.splitOn '\n').reverse with
  | [] => []
  | last :: earlier => ((last :: earlier.map endless).reverse).map String.ofList

/-- Whether the events of a target are printed. -/
def listensTo (target : String) : Bool := "filterforge".toList.isPrefixOf target.toList

/-- The lines an event is printed as. -/
def lines (target : String) (fields : List (String × FieldValue)) (level : Level) : List String :=
  if listensTo target then ((render? (Recorded.ofFields fields) level).map splitLines).getD []
  else []

/-- The lines printed for events, of which those up to a level are let through. -/
def log (limit : Option Level) (events : List Event) : List String :=
  (events.filter fun event => limit.any event.level.passes).flatMap fun event =>
    lines event.target event.fields event.level

end Console

end RecordFilter
