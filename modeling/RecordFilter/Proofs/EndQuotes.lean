import Mathlib.Data.List.Forall2
import RecordFilter.Binding.Basic
import RecordFilter.Console

set_option autoImplicit false

/-!
Double quotes at the ends of a text. The text of a shown value is recorded without them, so it is
recorded as it is exactly if it is bare: if it neither begins nor ends with one. The label of a
binding begins and ends with names of properties, or with what a raw binding was given.
-/

namespace RecordFilter

namespace Text

/-- Whether a text neither begins nor ends with a double quote. -/
def IsBare (s : String) : Prop := s.toList.head? ≠ some '"' ∧ s.toList.getLast? ≠ some '"'

instance (s : String) : Decidable (IsBare s) := inferInstanceAs (Decidable (_ ∧ _))

/-- A row of double quotes. -/
def quotes (count : Nat) : String := String.ofList (List.replicate count '"')

/-- Whether a bare text becomes another one by double quotes at its ends. -/
def IsCoreOf (core s : String) : Prop :=
  IsBare core ∧ ∃ before after, s = quotes before ++ core ++ quotes after

theorem dropWhile_replicate_append (count : Nat) {rest : List Char}
    (bare : rest.head? ≠ some '"') :
    (List.replicate count '"' ++ rest).dropWhile (· == '"') = rest := by
  induction count with
  | zero =>
      cases rest with
      | nil => rfl
      | cons c rest =>
          have other : c ≠ '"' := fun quote => bare (by rw [quote, List.head?_cons])
          simp [other]
  | succ count ih =>
      rw [List.replicate_succ, List.cons_append, List.dropWhile_cons_of_pos (by decide), ih]

theorem exists_replicate_append (s : List Char) :
    ∃ count, s = List.replicate count '"' ++ s.dropWhile (· == '"') ∧
      (s.dropWhile (· == '"')).head? ≠ some '"' := by
  induction s with
  | nil => exact ⟨0, rfl, nofun⟩
  | cons c rest ih =>
      by_cases quote : c = '"'
      · obtain ⟨count, split, bare⟩ := ih
        subst quote
        refine ⟨count + 1, ?_, by simpa using bare⟩
        rw [List.replicate_succ, List.cons_append, List.dropWhile_cons_of_pos (by decide), ← split]
      · refine ⟨0, ?_, ?_⟩ <;> simp [quote]

theorem isCoreOf_self_iff {s : String} : IsCoreOf s s ↔ IsBare s := by
  constructor
  · intro core
    exact core.1
  · intro bare
    exact ⟨bare, 0, 0, by simp [quotes]⟩

/-- Between parts that are bare at the ends, a text is bare if what is around them is. -/
theorem isBare_append {opening closing : String} (head : ∃ c ≠ '"', opening.toList.head? = some c)
    (tail : ∃ c ≠ '"', closing.toList.getLast? = some c) (before inner after : String) :
    IsBare (before ++ opening ++ inner ++ closing ++ after) ↔
      before.toList.head? ≠ some '"' ∧ after.toList.getLast? ≠ some '"' := by
  obtain ⟨first, bareFirst, first_eq⟩ := head
  obtain ⟨last, bareLast, last_eq⟩ := tail
  simp only [IsBare, String.toList_append, List.head?_append, List.getLast?_append, first_eq,
    last_eq]
  cases before.toList.head? <;> cases after.toList.getLast? <;> simp [bareFirst, bareLast]

end Text

namespace Recorded

open Text

theorem toList_unquoted (s : String) :
    (unquoted s).toList =
      ((s.toList.dropWhile (· == '"')).reverse.dropWhile (· == '"')).reverse :=
  String.toList_ofList

theorem isCoreOf_unquoted (s : String) : IsCoreOf (unquoted s) s := by
  obtain ⟨before, front, bareFront⟩ := exists_replicate_append s.toList
  obtain ⟨after, back, bareBack⟩ :=
    exists_replicate_append (s.toList.dropWhile (· == '"')).reverse
  have split : s.toList.dropWhile (· == '"') =
      (unquoted s).toList ++ List.replicate after '"' := by
    rw [toList_unquoted, ← List.reverse_replicate, ← List.reverse_append, ← back,
      List.reverse_reverse]
  refine ⟨⟨?_, ?_⟩, before, after, ?_⟩
  · -- Dropping quotes from the end leaves the first character, unless nothing is left.
    intro quote
    rw [split, List.head?_append, quote] at bareFront
    exact bareFront rfl
  · rw [toList_unquoted, List.getLast?_reverse]
    exact bareBack
  · apply String.toList_injective
    simp only [quotes, String.toList_append, String.toList_ofList, List.append_assoc]
    rw [← split]
    exact front

/-- There is only one bare text that becomes a given one by double quotes at its ends. -/
theorem isCoreOf_iff {core s : String} : IsCoreOf core s ↔ unquoted s = core := by
  constructor
  · rintro ⟨⟨bareFront, bareBack⟩, before, after, rfl⟩
    apply String.toList_injective
    rw [toList_unquoted]
    simp only [quotes, String.toList_append, String.toList_ofList, List.append_assoc]
    by_cases empty : core.toList = []
    · have none : ([] : List Char).head? ≠ some '"' := nofun
      have rows := dropWhile_replicate_append (before + after) none
      rw [List.append_nil, ← List.replicate_append_replicate] at rows
      rw [empty, List.nil_append, rows]
      rfl
    · have front : (core.toList ++ List.replicate after '"').head? ≠ some '"' := by
        rw [List.head?_append_of_ne_nil _ empty]
        exact bareFront
      have back : core.toList.reverse.head? ≠ some '"' := by
        rw [List.head?_reverse]
        exact bareBack
      rw [dropWhile_replicate_append before front, List.reverse_append, List.reverse_replicate,
        dropWhile_replicate_append after back, List.reverse_reverse]
  · rintro rfl
    exact isCoreOf_unquoted s

theorem unquoted_eq_self_iff {s : String} : unquoted s = s ↔ IsBare s :=
  isCoreOf_iff.symm.trans isCoreOf_self_iff

/-- Quotes inside of a text stay. -/
example : unquoted "\"\"so \"called\" books\"" = "so \"called\" books" ∧
    IsBare "so \"called\" books" := by decide

theorem forall₂_isCoreOf_iff {cores texts : List String} :
    List.Forall₂ IsCoreOf cores texts ↔ cores = texts.map unquoted := by
  have same : IsCoreOf = fun core s => core = unquoted s := by
    funext core s
    exact propext (isCoreOf_iff.trans eq_comm)
  rw [← List.forall₂_eq_eq_eq, List.forall₂_map_right_iff, same]

/-- No character comes in by dropping quotes. -/
theorem mem_of_mem_unquoted {c : Char} {s : String} (inside : c ∈ (unquoted s).toList) :
    c ∈ s.toList := by
  obtain ⟨-, before, after, split⟩ := isCoreOf_unquoted s
  rw [split]
  simp [inside]

end Recorded

namespace Constraint

/-- The name that a label begins with, if it does not begin with a word of its own. -/
def leadingName : Constraint → String
  | compare entity .. | contain entity .. | member entity .. | text entity .. => entity.name
  | entityRange _ min _ => min.bound.name
  | filterRange .. | raw .. => ""

/-- What a label ends with: a name, or what a raw binding was given. -/
def trailingText : Constraint → String
  | compare _ filter .. | contain _ filter .. | member _ filter .. | text _ filter .. =>
    filter.name
  | filterRange _ _ max | entityRange _ _ max => max.bound.name
  | raw label _ => label

theorem isBare_label_iff (constraint : Constraint) :
    Text.IsBare constraint.label ↔
      constraint.leadingName.toList.head? ≠ some '"' ∧
        constraint.trailingText.toList.getLast? ≠ some '"' := by
  have operated (entity symbol filter : String) :
      Text.IsBare (entity ++ " " ++ symbol ++ " filter." ++ filter) ↔
        entity.toList.head? ≠ some '"' ∧ filter.toList.getLast? ≠ some '"' :=
    Text.isBare_append ⟨' ', by decide, rfl⟩ ⟨'.', by decide, rfl⟩ entity symbol filter
  cases constraint with
  | compare entity filter op plan => exact operated entity.name op.symbol filter.name
  | contain entity filter op convert comparison => exact operated entity.name op.text filter.name
  | member entity filter op convert comparison => exact operated entity.name op.text filter.name
  | text entity filter op comparison => exact operated entity.name op.name filter.name
  | filterRange entity min max =>
      have ranged : Text.IsBare ("" ++ "filter." ++ (min.bound.name ++ " .. " ++ entity.name) ++
          " .. filter." ++ max.bound.name) ↔ _ :=
        Text.isBare_append ⟨'f', by decide, rfl⟩ ⟨'.', by decide, rfl⟩ "" _ max.bound.name
      simpa only [label, leadingName, trailingText, BindingKey.text, String.empty_append,
        String.append_assoc] using ranged
  | entityRange filter min max =>
      exact Text.isBare_append ⟨' ', by decide, rfl⟩ ⟨' ', by decide, rfl⟩ min.bound.name
        filter.name max.bound.name
  | raw given expr =>
      have raw : Text.IsBare ("" ++ "raw" ++ "" ++ " " ++ given) ↔ _ :=
        Text.isBare_append ⟨'r', by decide, rfl⟩ ⟨' ', by decide, rfl⟩ "" "" given
      exact raw

end Constraint

end RecordFilter
