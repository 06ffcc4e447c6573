import Mathlib.Data.List.Forall2

set_option autoImplicit false

/-!
Outcomes of steps that can fail, and of searches in lists. A sequence of steps succeeds if each of
them does, and otherwise it has the error of the first that fails. What is found under a key is all
there is under it, as long as no key is repeated.
-/

namespace RecordFilter

namespace Except

variable {ε δ α β γ : Type} {result : Except ε α} {next : α → Except ε β}

theorem bind_eq_ok_iff {value : β} :
    result >>= next = .ok value ↔ ∃ middle, result = .ok middle ∧ next middle = .ok value := by
  cases result <;> simp [bind, Except.bind]

theorem bind_eq_error_iff {reason : ε} :
    result >>= next = .error reason ↔
      result = .error reason ∨ ∃ middle, result = .ok middle ∧ next middle = .error reason := by
  cases result <;> simp [bind, Except.bind]

theorem pure_eq_ok_iff {value other : α} :
    (pure value : Except ε α) = .ok other ↔ value = other := by
  simp [pure, Except.pure]

theorem mapError_eq_ok_iff {describe : ε → δ} {value : α} :
    result.mapError describe = .ok value ↔ result = .ok value := by
  cases result <;> simp [Except.mapError]

theorem toOption_eq_some_iff {value : α} : result.toOption = some value ↔ result = .ok value := by
  cases result <;> simp [Except.toOption]

theorem toOption_eq_none_iff : result.toOption = none ↔ ∀ value, result ≠ .ok value := by
  cases result <;> simp [Except.toOption]

/-- If a step after a value of another kind does what the step after the value does, so does the
sequence. -/
theorem map_bind_eq_map {move : α → γ} {image : β → δ} {others : γ → Except ε δ}
    (follows : ∀ value, others (move value) = (next value).map image) :
    result.map move >>= others = (result >>= next).map image := by
  cases result with
  | error reason => rfl
  | ok value => exact follows value

theorem bind_eq_map {image : β → δ} {others : α → Except ε δ}
    (follows : ∀ value, others value = (next value).map image) :
    result >>= others = (result >>= next).map image := by
  cases result with
  | error reason => rfl
  | ok value => exact follows value

end Except

namespace List

section Keys

variable {α κ : Type} [BEq κ] [LawfulBEq κ]

/-- In a list without repeated keys, a key has the entry that is found for it and no other. -/
theorem lookup_eq_some_iff_mem {entries : List (κ × α)} (once : (entries.map (·.1)).Nodup)
    (key : κ) (value : α) : entries.lookup key = some value ↔ (key, value) ∈ entries := by
  induction entries with
  | nil => simp
  | cons first rest ih =>
      obtain ⟨firstKey, firstValue⟩ := first
      rw [List.map_cons, List.nodup_cons] at once
      rw [List.lookup_cons, List.mem_cons, Prod.mk.injEq]
      by_cases same : key = firstKey
      · subst same
        have absent : (key, value) ∉ rest := fun member =>
          absurd (List.mem_map_of_mem (f := Prod.fst) member) once.1
        simp [absent, eq_comm]
      · rw [beq_false_of_ne same]
        simp [same, ih once.2]

/-- In a list without repeated keys at most one element of a key counts. -/
theorem countP_key {key : α → κ} {items : List α} (once : (items.map key).Nodup) (wanted : κ)
    (holds : α → Bool) :
    items.countP (fun item => key item == wanted && holds item) =
      ((items.find? fun item => key item == wanted).any holds).toNat := by
  induction items with
  | nil => rfl
  | cons item rest ih =>
      rw [List.map_cons, List.nodup_cons] at once
      rw [List.countP_cons, List.find?_cons, ih once.2]
      cases same : key item == wanted with
      | false => simp
      | true =>
          have absent : rest.find? (fun item => key item == wanted) = none := by
            rw [List.find?_eq_none]
            intro other member equal
            have repeated : key item = key other := (eq_of_beq same).trans (eq_of_beq equal).symm
            exact once.1 (repeated ▸ List.mem_map_of_mem member)
          rw [absent]
          cases counted : holds item <;> simp [counted]

end Keys

variable {α β : Type}

theorem filterMap_singleton (pick : α → Option β) (item : α) :
    [item].filterMap pick = (pick item).toList := by
  cases picked : pick item <;> simp [picked]

/-- A list that is filtered and mapped at once answers, element by element, to the part of the list
that is kept. -/
theorem forall₂_filterMap (pick : α → Option β) (items : List α) :
    List.Forall₂ (fun item picked => pick item = some picked)
      (items.filter fun item => (pick item).isSome) (items.filterMap pick) := by
  induction items with
  | nil => exact .nil
  | cons item rest ih =>
      cases picked : pick item with
      | none => simpa [picked] using ih
      | some value => simpa [picked] using ih

/-- If every element of a list has a partner, the partners make a list as well. -/
theorem exists_forall₂ {relation : α → β → Prop} {items : List β}
    (partner : ∀ item ∈ items, ∃ other, relation other item) :
    ∃ others, List.Forall₂ relation others items := by
  induction items with
  | nil => exact ⟨[], .nil⟩
  | cons item rest ih =>
      obtain ⟨other, first⟩ := partner item List.mem_cons_self
      obtain ⟨others, related⟩ := ih fun item member => partner item (List.mem_cons_of_mem _ member)
      exact ⟨other :: others, .cons first related⟩

end List

end RecordFilter
