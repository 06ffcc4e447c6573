import RecordFilter.Expr.Eval

set_option autoImplicit false

/-!
Binding a tree to a filter record keeps its meaning: over every entity record the bound tree has
the value the tree has beside the filter record. No field of the filter is left in it, the entity
fields it reads are the same, in the same order, and binding it once more changes nothing.
-/

namespace RecordFilter

namespace Expr

/-- A tree and all trees inside it. -/
def subtrees : Expr → List Expr
  | literal value => [literal value]
  | field index => [field index]
  | filterField index => [filterField index]
  | convert operand target => convert operand target :: operand.subtrees
  | compare op left right => compare op left right :: (left.subtrees ++ right.subtrees)
  | and left right => and left right :: (left.subtrees ++ right.subtrees)
  | or left right => or left right :: (left.subtrees ++ right.subtrees)
  | not operand => not operand :: operand.subtrees
  | isNull operand => isNull operand :: operand.subtrees
  | isNotNull operand => isNotNull operand :: operand.subtrees
  | contains collection item =>
    contains collection item :: (collection.subtrees ++ item.subtrees)
  | text op value pattern comparison =>
    text op value pattern comparison :: (value.subtrees ++ pattern.subtrees)
  | textIn collection item comparison =>
    textIn collection item comparison :: (collection.subtrees ++ item.subtrees)

theorem mem_filterFields_iff (expr : Expr) (index : Nat) :
    index ∈ expr.filterFields ↔ filterField index ∈ expr.subtrees := by
  induction expr with
  | literal | field | filterField => simp [filterFields, subtrees]
  | convert _ _ ih | not _ ih | isNull _ ih | isNotNull _ ih => simp [filterFields, subtrees, ih]
  | compare _ _ _ ihl ihr | and _ _ ihl ihr | or _ _ ihl ihr | contains _ _ ihl ihr
  | text _ _ _ _ ihl ihr | textIn _ _ _ ihl ihr => simp [filterFields, subtrees, ihl, ihr]

theorem mem_entityFields_iff (expr : Expr) (index : Nat) :
    index ∈ expr.entityFields ↔ field index ∈ expr.subtrees := by
  induction expr with
  | literal | field | filterField => simp [entityFields, subtrees]
  | convert _ _ ih | not _ ih | isNull _ ih | isNotNull _ ih => simp [entityFields, subtrees, ih]
  | compare _ _ _ ihl ihr | and _ _ ihl ihr | or _ _ ihl ihr | contains _ _ ihl ihr
  | text _ _ _ _ ihl ihr | textIn _ _ _ ihl ihr => simp [entityFields, subtrees, ihl, ihr]

theorem filterField_not_mem_subtrees {expr : Expr} (closed : expr.filterFields = [])
    (index : Nat) : filterField index ∉ expr.subtrees := by
  rw [← mem_filterFields_iff, closed]
  exact List.not_mem_nil

section ConvertLiteral

variable (operand : Expr) (target : NumericType)

/-- Only a literal that has the conversion is replaced; one whose conversion fails is kept under
it. -/
theorem convertLiteral_cases :
    operand.convertLiteral target = convert operand target ∨
      ∃ value converted, operand = literal value ∧ value.widen target = some converted ∧
        operand.convertLiteral target = literal converted := by
  cases operand with
  | literal value =>
      cases widened : value.widen target with
      | none => simp [convertLiteral, widened]
      | some converted =>
          have folded : (literal value).convertLiteral target = literal converted := by
            simp [convertLiteral, widened]
          exact Or.inr ⟨value, converted, rfl, widened, folded⟩
  | _ => exact Or.inl rfl

theorem eval_convertLiteral (entity : Record) (filter : Option Record) :
    (operand.convertLiteral target).eval entity filter =
      ((operand.eval entity filter).widen target).getD .null := by
  rcases operand.convertLiteral_cases target with kept | ⟨value, converted, rfl, widened, folded⟩
  · rw [kept, eval]
  · rw [folded, eval, eval, widened, Option.getD_some]

theorem entityFields_convertLiteral :
    (operand.convertLiteral target).entityFields = operand.entityFields := by
  rcases operand.convertLiteral_cases target with kept | ⟨value, converted, rfl, _, folded⟩
  · rw [kept, entityFields]
  · rw [folded, entityFields, entityFields]

theorem filterFields_convertLiteral :
    (operand.convertLiteral target).filterFields = operand.filterFields := by
  rcases operand.convertLiteral_cases target with kept | ⟨value, converted, rfl, _, folded⟩
  · rw [kept, filterFields]
  · rw [folded, filterFields, filterFields]

/-- Binding and carrying out a conversion can change places, as a literal has nothing to bind. -/
theorem bind_convertLiteral (filter : Record) :
    (operand.convertLiteral target).bind filter =
      (operand.bind filter).convertLiteral target := by
  rcases operand.convertLiteral_cases target with kept | ⟨value, converted, rfl, _, folded⟩
  · rw [kept, bind]
  · rw [bind, folded, bind]

end ConvertLiteral

/-- A bound tree has by itself the value of the tree beside the filter record. -/
theorem eval_bind (expr : Expr) (filter entity : Record) :
    (expr.bind filter).eval entity none = expr.eval entity (some filter) := by
  induction expr with
  | convert operand target ih => simp only [bind, eval_convertLiteral, eval, ih]
  | _ => simp_all only [bind, eval, Option.elim]

theorem entityFields_bind (expr : Expr) (filter : Record) :
    (expr.bind filter).entityFields = expr.entityFields := by
  induction expr with
  | convert operand target ih =>
      simp only [bind, entityFields_convertLiteral, entityFields, ih]
  | _ => simp_all only [bind, entityFields]

theorem filterFields_bind (expr : Expr) (filter : Record) :
    (expr.bind filter).filterFields = [] := by
  induction expr with
  | convert operand target ih => simp only [bind, filterFields_convertLiteral, ih]
  | _ => simp_all only [bind, filterFields, List.append_nil]

/-- A tree once bound is its own binding to any record, as every conversion of a literal has
been tried already. -/
theorem bind_bind (expr : Expr) (filter other : Record) :
    (expr.bind filter).bind other = expr.bind filter := by
  induction expr with
  | convert operand target ih => simp only [bind, bind_convertLiteral, ih]
  | _ => simp_all only [bind]

end Expr

/-- What binding a tree to a filter record keeps: its values, and the entity fields it reads; and
what it leaves: a tree without fields of the filter, which no further binding changes. -/
theorem binding_preserves_meaning (expr : Expr) (filter entity other : Record) :
    (expr.bind filter).eval entity none = expr.eval entity (some filter) ∧
      (∀ index, Expr.filterField index ∉ (expr.bind filter).subtrees) ∧
      (expr.bind filter).entityFields = expr.entityFields ∧
      (expr.bind filter).filterFields = [] ∧
      (expr.bind filter).bind other = expr.bind filter := by
  have closed := expr.filterFields_bind filter
  exact ⟨expr.eval_bind filter entity, Expr.filterField_not_mem_subtrees closed,
    expr.entityFields_bind filter, closed, expr.bind_bind filter other⟩

end RecordFilter
