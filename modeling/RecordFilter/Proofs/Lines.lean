import RecordFilter.Proofs.EndQuotes
import RecordFilter.Proofs.Lowering
import RecordFilter.Registry

set_option autoImplicit false

/-!
Lines for events. A line is a row of cells, each a coloured text with plain text behind it, and the
names and labels of an event are the texts of the cells behind the time and the icon. They are there
without the double quotes at their ends: as they are exactly if they are bare. Unless they bring
escape characters along, they can be read off the printed line.
-/

namespace RecordFilter

namespace Console

/-- A coloured text of a line, and the plain text behind it. -/
structure Cell where
  colour : Colour
  isBold : Bool
  text : String
  behind : String
  deriving DecidableEq, Repr

namespace Cell

/-- The cell with its colour codes. -/
def printed (cell : Cell) : String :=
  (if cell.isBold then bold (coloured cell.colour cell.text) else coloured cell.colour cell.text) ++
    cell.behind

def time : Cell := ⟨.brightBlack, false, "  0.000s", " "⟩

/-- A sign for the kind of event, and the words up to the next coloured text. -/
def icon (colour : Colour) (isBold : Bool) (sign words : String) : Cell :=
  ⟨colour, isBold, sign, " " ++ words⟩

def name (s : Option String) (behind : String) : Cell := ⟨.white, true, s.getD "?", behind⟩

def label (s : Option String) : Cell := ⟨.brightWhite, false, s.getD "", ""⟩

def count (n : Option Nat) (behind : String) : Cell :=
  ⟨.brightYellow, false, toString (n.getD 0), behind⟩

def faint (s : Option String) (behind : String) : Cell :=
  ⟨.brightBlack, false, s.getD "?", behind⟩

section Printed

variable (colour : Colour) (text behind : String)

@[simp] theorem printed_plain :
    printed ⟨colour, false, text, behind⟩ = coloured colour text ++ behind := rfl

@[simp] theorem printed_time : time.printed = elapsed ++ " " := rfl

@[simp] theorem printed_icon :
    (icon colour false text behind).printed = coloured colour text ++ (" " ++ behind) := rfl

@[simp] theorem printed_boldIcon :
    (icon colour true text behind).printed = bold (coloured colour text) ++ (" " ++ behind) := rfl

@[simp] theorem printed_name (s : Option String) :
    (name s behind).printed = named s ++ behind := rfl

@[simp] theorem printed_label (s : Option String) :
    (label s).printed = coloured .brightWhite (s.getD "") := by
  rw [label, printed_plain, String.append_empty]

@[simp] theorem printed_count (n : Option Nat) :
    (count n behind).printed = number n ++ behind := rfl

@[simp] theorem printed_faint (s : Option String) :
    (faint s behind).printed = Console.faint s ++ behind := rfl

end Printed

/-- Whether a cell holds no escape characters. -/
structure IsPlain (cell : Cell) : Prop where
  text : '\x1b' ∉ cell.text.toList
  behind : '\x1b' ∉ cell.behind.toList

end Cell

/-- A row of cells as it is printed. -/
def printed (cells : List Cell) : String := String.join (cells.map Cell.printed)

@[simp] theorem printed_nil : printed [] = "" := rfl

@[simp] theorem printed_cons (cell : Cell) (rest : List Cell) :
    printed (cell :: rest) = cell.printed ++ printed rest := by
  rw [printed, List.map_cons, String.join_cons, printed]

def bindingCells (r : Recorded) (sign : String) : List Cell :=
  [.time, .icon .brightBlue false sign "", .name r.entity " / ", .name r.filter " │ ",
    .label r.binding]

/-- The cells of the line for an event. -/
def cells? (r : Recorded) (level : Level) : Option (List Cell) :=
  match r.event with
  | some "registration" => some <|
    [.time, .icon .brightGreen true "▶" "Registered ", .name r.entity " / ",
      .name r.filter " │ ", .count r.explicit " explicit │ "] ++
    if r.lazy = some true then
      [.count r.discovered (" discovered" ++ " │ "), ⟨.brightMagenta, false, "lazy", ""⟩]
    else [.count r.discovered " discovered"]
  | some "build" => some
    [.time, .icon .brightCyan true "■" "Registry ready │ ",
      .count r.registrations " registrations │ ",
      if r.autoRegister = some true then ⟨.brightMagenta, false, "auto-register", ""⟩
      else ⟨.white, false, "explicit only", ""⟩]
  | some "auto_register" => some
    [.time, .icon .brightCyan false "⚡" "Auto-registered ", .name r.entity " / ",
      .name r.filter " │ ", .count r.bindings " bindings"]
  | some "binding" => some (bindingCells r "+")
  | some "auto_discovery" => some (bindingCells r "~")
  | some "compile" => some
    [.time, .icon .brightBlue false "◆" "Compiled ", .name r.entity " / ", .name r.filter " │ ",
      .count r.bindings " bindings"]
  | some "not_registered" => some
    [.time, .icon .brightRed false "✗" "No filter for ", .name r.entity " / ", .name r.filter ""]
  | some "binding_skipped" =>
    if level = .trace then some
      [.time, .icon .brightBlack false "·" "Skipped ", .faint r.property " │ ",
        .faint r.entityType " vs ", .faint r.filterType ""]
    else none
  | _ => none

theorem render?_eq_printed (r : Recorded) (level : Level) :
    render? r level = (cells? r level).map printed := by
  -- Both sides join the same pieces, so literals that stand side by side must not be merged.
  unfold render?
  split
  case h_1 kind =>
    by_cases isLazy : r.lazy = some true <;>
      simp [-String.reduceAppend, cells?, kind, line, pairText, isLazy, String.append_assoc]
  case h_2 kind =>
    by_cases automatic : r.autoRegister = some true <;>
      simp [-String.reduceAppend, cells?, kind, line, automatic, String.append_assoc]
  case h_8 kind =>
    by_cases traced : level = .trace
    · simp [-String.reduceAppend, cells?, kind, line, traced, String.append_assoc]
      rfl
    · simp [cells?, kind, traced]
  case h_9 =>
    -- A kind that has no line has no cells.
    unfold cells?
    split <;> simp_all
  all_goals
    rename_i kind
    simp [-String.reduceAppend, cells?, kind, bindingLine, bindingCells, line, pairText,
      String.append_assoc]

def Colour.all : List Colour :=
  [.brightBlack, .brightRed, .brightGreen, .brightYellow, .brightBlue, .brightMagenta,
    .brightCyan, .brightWhite, .white]

theorem Colour.mem_all (colour : Colour) : colour ∈ all := by
  cases colour <;> decide

/-- What stands between the escape character and the `m` where a colour starts. -/
def Colour.mark (colour : Colour) : List Char := '[' :: (toString colour.code).toList

/-- The text behind an escape character, if a colour starts there. -/
def textAt? (rest : List Char) : Option String :=
  if rest.takeWhile (· != 'm') ∈ Colour.all.map Colour.mark then
    some (String.ofList (((rest.dropWhile (· != 'm')).drop 1).takeWhile (· != '\x1b')))
  else none

/-- The coloured texts of a printed line. -/
def read : List Char → List String
  | [] => []
  | c :: rest => if c = '\x1b' then (textAt? rest).toList ++ read rest else read rest

section Reading

variable {text : List Char} (rest : List Char)

theorem forall_bne {c : Char} (absent : c ∉ text) : ∀ d ∈ text, (d != c) = true := by
  intro d inside
  exact bne_iff_ne.mpr fun same => absent (same ▸ inside)

theorem read_append (unescaped : '\x1b' ∉ text) : read (text ++ rest) = read rest := by
  induction text with
  | nil => rfl
  | cons c text ih =>
      have other : c ≠ '\x1b' := fun escape => unescaped (by simp [escape])
      rw [List.cons_append, read, if_neg other, ih (fun inside => unescaped (by simp [inside]))]

/-- Behind an escape character and a code, the text up to the next escape character counts if the
code starts a colour. -/
theorem read_code {code : List Char} (unended : 'm' ∉ code) (unescaped : '\x1b' ∉ code) :
    read ('\x1b' :: (code ++ 'm' :: rest)) =
      (if code ∈ Colour.all.map Colour.mark then [String.ofList (rest.takeWhile (· != '\x1b'))]
        else []) ++ read rest := by
  have mark : (code ++ 'm' :: rest).takeWhile (· != 'm') = code := by
    rw [List.takeWhile_append_of_pos (forall_bne unended)]
    simp
  have behind : ((code ++ 'm' :: rest).dropWhile (· != 'm')).drop 1 = rest := by
    rw [List.dropWhile_append_of_pos (forall_bne unended)]
    simp
  have skipped : read (code ++ 'm' :: rest) = read rest := by
    rw [read_append _ unescaped, read, if_neg (by decide)]
  rw [read, if_pos rfl, skipped, textAt?, mark, behind]
  split <;> rfl

theorem toList_coloured (colour : Colour) (text : String) :
    (coloured colour text).toList =
      '\x1b' :: (colour.mark ++ 'm' :: (text.toList ++ '\x1b' :: (['[', '3', '9'] ++ ['m']))) := by
  simp [coloured, Colour.mark]

theorem read_coloured (colour : Colour) {text : String} (unescaped : '\x1b' ∉ text.toList) :
    read ((coloured colour text).toList ++ rest) = text :: read rest := by
  have unended : 'm' ∉ colour.mark ∧ '\x1b' ∉ colour.mark := by
    cases colour <;> decide
  have isMark : colour.mark ∈ Colour.all.map Colour.mark := List.mem_map_of_mem colour.mem_all
  have closing : read ('\x1b' :: (['[', '3', '9'] ++ 'm' :: rest)) = read rest := by
    rw [read_code _ (by decide) (by decide), if_neg (by decide), List.nil_append]
  have taken : (text.toList ++ '\x1b' :: (['[', '3', '9'] ++ 'm' :: rest)).takeWhile
      (· != '\x1b') = text.toList := by
    rw [List.takeWhile_append_of_pos (forall_bne unescaped)]
    simp
  calc
    read ((coloured colour text).toList ++ rest) =
        read ('\x1b' :: (colour.mark ++ 'm' ::
          (text.toList ++ '\x1b' :: (['[', '3', '9'] ++ 'm' :: rest)))) := by
      rw [toList_coloured]
      simp
    _ = [String.ofList text.toList] ++ read rest := by
      rw [read_code _ unended.1 unended.2, if_pos isMark, taken, read_append _ unescaped, closing]
    _ = text :: read rest := by
      rw [String.ofList_toList, List.singleton_append]

/-- The code for bold text starts no colour. -/
theorem read_bold (s : String) :
    read ((bold s).toList ++ rest) =
      read (s.toList ++ '\x1b' :: (['[', '0'] ++ 'm' :: rest)) := by
  have split : (bold s).toList ++ rest =
      '\x1b' :: (['[', '1'] ++ 'm' :: (s.toList ++ '\x1b' :: (['[', '0'] ++ 'm' :: rest))) := by
    simp [bold]
  rw [split, read_code _ (by decide) (by decide), if_neg (by decide), List.nil_append]

theorem read_cell {cell : Cell} (plain : cell.IsPlain) :
    read (cell.printed.toList ++ rest) = cell.text :: read rest := by
  have closing : read ('\x1b' :: (['[', '0'] ++ 'm' :: (cell.behind.toList ++ rest))) =
      read rest := by
    rw [read_code _ (by decide) (by decide), if_neg (by decide), List.nil_append,
      read_append _ plain.behind]
  rw [Cell.printed, String.toList_append, List.append_assoc]
  split
  · rw [read_bold, read_coloured _ _ plain.text, closing]
  · rw [read_coloured _ _ plain.text, read_append _ plain.behind]

/-- Reading undoes printing, whatever comes behind. -/
theorem read_printed_append {cells : List Cell} (plain : ∀ cell ∈ cells, cell.IsPlain)
    (more : List Cell) :
    read (printed (cells ++ more)).toList = cells.map Cell.text ++ read (printed more).toList := by
  induction cells with
  | nil => rfl
  | cons cell cells ih =>
      obtain ⟨first, others⟩ := List.forall_mem_cons.mp plain
      rw [List.cons_append, printed_cons, String.toList_append, read_cell _ first, ih others,
        List.map_cons, List.cons_append]

end Reading

end Console

namespace Event

def kind (event : Event) : Option String := (Recorded.ofFields event.fields).event

/-- The names and the label that are to be seen in the line for an event. -/
def texts : Event → List String
  | registration pair .. | compile pair _ | autoRegister pair _ | notRegistered pair =>
    [pair.entity, pair.filter]
  | binding pair label | autoDiscovery pair label => [pair.entity, pair.filter, label]
  | bindingSkipped .. | build .. => []

def line? (event : Event) : Option String :=
  Console.render? (Recorded.ofFields event.fields) event.level

def cells? (event : Event) : Option (List Console.Cell) :=
  Console.cells? (Recorded.ofFields event.fields) event.level

/-- What is seen in the places of the names and of the label: behind the time and the icon. -/
def shown (event : Event) : List String :=
  (((event.cells?.getD []).drop 2).take event.texts.length).map Console.Cell.text

theorem line?_eq_printed (event : Event) : event.line? = event.cells?.map Console.printed :=
  Console.render?_eq_printed _ _

@[simp] theorem listensTo_target (event : Event) : Console.listensTo event.target = true := by
  cases event <;> rw [target] <;> decide

/-- No event of a builder or a registry is passed over for its target. -/
theorem lines_eq (event : Event) :
    Console.lines event.target event.fields event.level =
      (event.line?.map Console.splitLines).getD [] := by
  rw [Console.lines, if_pos event.listensTo_target, line?]

theorem log_eq (limit : Option Level) (events : List Event) :
    Console.log limit events =
      (events.filter fun event => limit.any event.level.passes).flatMap fun event =>
        (event.line?.map Console.splitLines).getD [] := by
  simp only [Console.log, lines_eq]

/-- How many names and labels there are depends on the kind of event alone. -/
theorem length_texts (event : Event) :
    event.texts.length =
      if event.kind ∈ [some "binding", some "auto_discovery"] then 3
      else if event.kind ∈ [some "binding_skipped", some "build"] then 0 else 2 := by
  cases event <;> rfl

/-- The cells of two names and of a label, if there is one, as they are recorded. -/
def textCells (names : ShapePair) (behind : String) (labels : List String) : List Console.Cell :=
  .name (some (Recorded.unquoted names.entity)) " / " ::
    .name (some (Recorded.unquoted names.filter)) behind ::
    labels.map fun label => .label (some (Recorded.unquoted label))

theorem exists_textCells {event : Event} (told : event.texts ≠ []) :
    ∃ icon names behind labels rest, event.texts = names.entity :: names.filter :: labels ∧
      event.cells? = some (.time :: icon :: textCells names behind labels ++ rest) ∧
      Console.Cell.IsPlain icon ∧ '\x1b' ∉ behind.toList := by
  cases event with
  | registration pair explicit discovered lazy =>
      exact ⟨_, pair, _, [], _, rfl, rfl, ⟨by decide, by decide⟩, by decide⟩
  | binding pair label =>
      exact ⟨_, pair, _, [label], [], rfl, rfl, ⟨by decide, by decide⟩, by decide⟩
  | autoDiscovery pair label =>
      exact ⟨_, pair, _, [label], [], rfl, rfl, ⟨by decide, by decide⟩, by decide⟩
  | compile pair bindings =>
      exact ⟨_, pair, _, [], _, rfl, rfl, ⟨by decide, by decide⟩, by decide⟩
  | autoRegister pair bindings =>
      exact ⟨_, pair, _, [], _, rfl, rfl, ⟨by decide, by decide⟩, by decide⟩
  | notRegistered pair =>
      exact ⟨_, pair, _, [], [], rfl, rfl, ⟨by decide, by decide⟩, by decide⟩
  | bindingSkipped pair property entityType filterType => exact absurd rfl told
  | build registrations automatic => exact absurd rfl told

theorem take_behind {α : Type} (first second : α) (middle rest : List α) :
    ((first :: second :: middle ++ rest).drop 2).take middle.length = middle :=
  List.take_left

theorem map_text_textCells (names : ShapePair) (behind : String) (labels : List String) :
    (textCells names behind labels).map Console.Cell.text =
      (names.entity :: names.filter :: labels).map Recorded.unquoted := by
  simp [textCells, Console.Cell.name, Console.Cell.label, Function.comp_def]

theorem isPlain_textCells {names : ShapePair} {behind : String} {labels : List String}
    (unescaped : ∀ text ∈ names.entity :: names.filter :: labels, '\x1b' ∉ text.toList)
    (behindUnescaped : '\x1b' ∉ behind.toList) :
    ∀ cell ∈ textCells names behind labels, cell.IsPlain := by
  have kept {text : String} (given : '\x1b' ∉ text.toList) :
      '\x1b' ∉ (Recorded.unquoted text).toList :=
    fun escape => given (Recorded.mem_of_mem_unquoted escape)
  have slash : '\x1b' ∉ " / ".toList := by decide
  have nothing : '\x1b' ∉ "".toList := by decide
  obtain ⟨entity, others⟩ := List.forall_mem_cons.mp unescaped
  obtain ⟨filter, given⟩ := List.forall_mem_cons.mp others
  rw [textCells, List.forall_mem_cons, List.forall_mem_cons, List.forall_mem_map]
  refine ⟨⟨kept entity, slash⟩, ⟨kept filter, behindUnescaped⟩, ?_⟩
  intro label inside
  exact ⟨kept (given label inside), nothing⟩

theorem shown_eq_map_unquoted {event : Event} (told : event.texts ≠ []) :
    event.shown = event.texts.map Recorded.unquoted := by
  obtain ⟨icon, names, behind, labels, rest, texts, cells, -⟩ := exists_textCells told
  have count : (textCells names behind labels).length = event.texts.length := by
    simp [textCells, texts]
  rw [shown, cells, Option.getD_some, ← count, take_behind, map_text_textCells, texts]

theorem read_line {event : Event} (told : event.texts ≠ [])
    (unescaped : ∀ text ∈ event.texts, '\x1b' ∉ text.toList) :
    ∃ line, event.line? = some line ∧
      ((Console.read line.toList).drop 2).take event.texts.length = event.shown := by
  obtain ⟨icon, names, behind, labels, rest, texts, cells, plainIcon, plainBehind⟩ :=
    exists_textCells told
  have plain : ∀ cell ∈ Console.Cell.time :: icon :: textCells names behind labels,
      cell.IsPlain := by
    rw [texts] at unescaped
    rw [List.forall_mem_cons, List.forall_mem_cons]
    exact ⟨⟨by decide, by decide⟩, plainIcon, isPlain_textCells unescaped plainBehind⟩
  have count : ((textCells names behind labels).map Console.Cell.text).length =
      event.texts.length := by
    simp [textCells, texts]
  refine ⟨_, by rw [line?_eq_printed, cells, Option.map_some], ?_⟩
  rw [Console.read_printed_append plain, List.map_cons, List.map_cons, ← count, take_behind,
    map_text_textCells, shown_eq_map_unquoted told, texts]

end Event

/-- Where the line for an event has its names and its label, it has what is left of them without the
double quotes at their ends: all of it exactly if they are bare, and all of the label of a binding
exactly if no quote comes from the names at its ends. Events of a kind differ in these places unless
their texts differ in such quotes alone. -/
theorem lines_show_texts_within_quotes {event : Event} (told : event.texts ≠ []) :
    (∃ cells, event.cells? = some cells ∧ event.line? = some (Console.printed cells)) ∧
    List.Forall₂ Text.IsCoreOf event.shown event.texts ∧
    (event.shown = event.texts ↔ ∀ text ∈ event.texts, Text.IsBare text) ∧
    (∀ binding : Binding, event.texts[2]? = some binding.label →
      (event.shown[2]? = some binding.label ↔
        binding.constraint.leadingName.toList.head? ≠ some '"' ∧
          binding.constraint.trailingText.toList.getLast? ≠ some '"')) ∧
    ((∀ text ∈ event.texts, '\x1b' ∉ text.toList) →
      ∃ line, event.line? = some line ∧
        ((Console.read line.toList).drop 2).take event.texts.length = event.shown) ∧
    ∀ other : Event, other.kind = event.kind →
      (other.shown = event.shown ↔ ∃ cores, List.Forall₂ Text.IsCoreOf cores other.texts ∧
        List.Forall₂ Text.IsCoreOf cores event.texts) ∧
      ((∀ text ∈ event.texts ++ other.texts, '\x1b' ∉ text.toList) →
        other.line? = event.line? → other.shown = event.shown) := by
  have shown := Event.shown_eq_map_unquoted told
  have cores : List.Forall₂ Text.IsCoreOf event.shown event.texts :=
    Recorded.forall₂_isCoreOf_iff.mpr shown
  refine ⟨?_, cores, ?_, ?_, Event.read_line told, ?_⟩
  · obtain ⟨icon, names, behind, labels, rest, -, cells, -⟩ := Event.exists_textCells told
    exact ⟨_, cells, by rw [Event.line?_eq_printed, cells, Option.map_some]⟩
  · rw [shown, eq_comm, ← Recorded.forall₂_isCoreOf_iff, List.forall₂_same]
    simp only [Text.isCoreOf_self_iff]
  · intro binding label
    rw [shown, List.getElem?_map, label, Option.map_some, Option.some.injEq,
      Recorded.unquoted_eq_self_iff]
    exact binding.constraint.isBare_label_iff
  · intro other kind
    have count : other.texts.length = event.texts.length := by
      rw [Event.length_texts, Event.length_texts, kind]
    have otherTold : other.texts ≠ [] := by
      intro none
      rw [none, List.length_nil] at count
      exact told (List.length_eq_zero_iff.mp count.symm)
    have otherShown := Event.shown_eq_map_unquoted otherTold
    constructor
    · constructor
      · intro same
        exact ⟨event.shown, Recorded.forall₂_isCoreOf_iff.mpr (same ▸ otherShown), cores⟩
      · rintro ⟨common, ofOther, ofEvent⟩
        rw [shown, otherShown, ← Recorded.forall₂_isCoreOf_iff.mp ofOther,
          Recorded.forall₂_isCoreOf_iff.mp ofEvent]
    · intro unescaped same
      obtain ⟨line, isLine, read⟩ := Event.read_line told fun text inside =>
        unescaped text (List.mem_append_left _ inside)
      obtain ⟨otherLine, isOther, readOther⟩ := Event.read_line otherTold fun text inside =>
        unescaped text (List.mem_append_right _ inside)
      have sameLine : otherLine = line := by
        rw [same, isLine] at isOther
        exact (Option.some.inj isOther).symm
      rw [← read, ← readOther, sameLine, count]

/-- A raw binding under a quoted label. -/
def classicBinding : Binding := ⟨.raw "\"classic\"" (.isNotNull (.field 0)), {}⟩

def classicDeclared : Event := .binding (bookShape.pairWith bookFilterShape) classicBinding.label

/-- The event of a label that lacks the quote at the end. -/
def halfQuoted : Event := .binding (bookShape.pairWith bookFilterShape) "raw \"classic"

theorem lines_show_texts_within_quotes_classic :
    classicDeclared.texts ≠ [] ∧
      List.Forall₂ Text.IsCoreOf ["Book", "BookFilter", "raw \"classic"]
        ["Book", "BookFilter", "raw \"classic\""] ∧
      classicDeclared.texts[2]? = some classicBinding.label ∧
      classicDeclared.shown[2]? ≠ some classicBinding.label ∧
      (∀ text ∈ classicDeclared.texts, '\x1b' ∉ text.toList) ∧
      (∃ line, classicDeclared.line? = some line ∧
        ((Console.read line.toList).drop 2).take 3 = ["Book", "BookFilter", "raw \"classic"]) ∧
      halfQuoted.kind = classicDeclared.kind ∧ halfQuoted.line? = classicDeclared.line? ∧
      halfQuoted.shown = classicDeclared.shown := by
  have told : classicDeclared.texts ≠ [] := nofun
  obtain ⟨-, cores, -, labels, reads, others⟩ := lines_show_texts_within_quotes told
  have unescaped : ∀ text ∈ classicDeclared.texts, '\x1b' ∉ text.toList := by decide
  have both : ∀ text ∈ classicDeclared.texts ++ halfQuoted.texts, '\x1b' ∉ text.toList := by
    decide
  have sameLine : halfQuoted.line? = classicDeclared.line? := rfl
  refine ⟨told, cores, rfl, ?_, unescaped, reads unescaped, rfl, sameLine, ?_⟩
  · intro same
    exact ((labels classicBinding rfl).mp same).2 rfl
  · exact (others halfQuoted rfl).2 both sameLine

def quotedBookShape : Shape := ⟨"\"Book\"", bookShape.fields, by decide⟩

/-- Neither is a name always in the line for its event, nor do different names give different
lines: a request for a shape with quotes in its name is reported like one for the shape without. -/
theorem quoted_name_is_missing_in_line :
    ((Registry.ofBuilder {}).request quotedBookShape bookFilterShape).events =
        [.notRegistered ⟨"\"Book\"", "BookFilter"⟩] ∧
      ((Registry.ofBuilder {}).request bookShape bookFilterShape).events =
        [.notRegistered ⟨"Book", "BookFilter"⟩] ∧
      ∃ line, (Event.notRegistered ⟨"\"Book\"", "BookFilter"⟩).line? = some line ∧
        '"' ∉ line.toList ∧
        (Event.notRegistered ⟨"Book", "BookFilter"⟩).line? = some line :=
  ⟨rfl, rfl, _, rfl, by decide, rfl⟩

end RecordFilter
