import RecordFilter.Binding.Compiled

set_option autoImplicit false

/-!
The two views of a condition agree. An accessor reads from every entity record the value that the
interpreter computes, and as a test it holds exactly when that value is the truth value true. A
compiled filter may therefore be asked directly or through its predicate.
-/

namespace RecordFilter

namespace Accessor

@[simp] theorem read_condition (test : Record → Bool) (record : Record) :
    (condition test).read record = .bool (test record) := rfl

/-- Whatever form an accessor has, its test looks at the value it reads. -/
theorem test_eq_isTrue_read (accessor : Accessor) (record : Record) :
    accessor.test record = (accessor.read record).isTrue := by
  cases accessor <;> rfl

/-- A conversion carried out once on a constant is the one carried out for every record. -/
theorem read_converted (accessor : Accessor) (target : NumericType) (record : Record) :
    (accessor.converted target).read record =
      ((accessor.read record).widen target).getD .null := by
  cases accessor <;> rfl

theorem compared_eq_satisfies (op : CompareOp) (left right : Accessor) (record : Record) :
    compared op left right record =
      Value.satisfies op (left.read record) (right.read record) := by
  cases left <;> cases right <;> rfl

theorem ordered_eq_any (holds : Ordering → Bool) (left right : Accessor) (record : Record) :
    ordered holds left right record =
      ((left.read record).order? (right.read record)).any holds := by
  cases left <;> cases right <;> rfl

end Accessor

namespace Expr

theorem read_accessor (expr : Expr) (entity : Record) :
    expr.accessor.read entity = expr.eval entity none := by
  induction expr with
  | literal value => rfl
  | field index => rfl
  | filterField index => rfl
  | convert operand target ih =>
      simp only [accessor, Accessor.read_converted, eval, ih]
  | compare op left right ihl ihr =>
      -- Each operator picks its own test; all of them come down to `satisfies`.
      cases op <;>
        simp only [accessor, Accessor.read_condition, Accessor.compared_eq_satisfies,
          Accessor.ordered_eq_any, eval, ihl, ihr] <;> rfl
  | and left right ihl ihr =>
      simp only [accessor, Accessor.read_condition, Accessor.test_eq_isTrue_read, eval, ihl, ihr]
  | or left right ihl ihr =>
      simp only [accessor, Accessor.read_condition, Accessor.test_eq_isTrue_read, eval, ihl, ihr]
  | not operand ih =>
      simp only [accessor, Accessor.read_condition, Accessor.test_eq_isTrue_read, eval, ih]
  | isNull operand ih => simp only [accessor, Accessor.read_condition, eval, ih]
  | isNotNull operand ih => simp only [accessor, Accessor.read_condition, eval, ih]
  | contains collection item ihc ihi =>
      simp only [accessor, Accessor.read_condition, eval, ihc, ihi]
  | text op value pattern comparison ihv ihp =>
      simp only [accessor, Accessor.read_condition, eval, ihv, ihp]
  | textIn collection item comparison ihc ihi =>
      simp only [accessor, Accessor.read_condition, eval, ihc, ihi]

theorem lower_eq_holds (expr : Expr) (entity : Record) :
    expr.lower entity = expr.holds entity none := by
  rw [lower, Accessor.test_eq_isTrue_read, read_accessor, holds]

end Expr

theorem Shape.checkRecord_of_name_eq {shape : Shape} {record : Record}
    (same : record.shape.name = shape.name) : shape.checkRecord record = .ok () := by
  simp only [checkRecord, same, ↓reduceIte]

namespace CompiledFilter

theorem expr_of_shape {compiled : CompiledFilter} {filter : Record}
    (same : filter.shape.name = compiled.filterShape.name) :
    compiled.expr filter =
      .ok (.conjunction (compiled.bindings.filterMap (·.fragment? filter))) := by
  rw [expr, Shape.checkRecord_of_name_eq same]
  rfl

/-- Asking a compiled filter is asking its predicate, once the entity record is checked; either
way a record of another shape gives the same error. -/
theorem accepts_eq_predicate (compiled : CompiledFilter) (filter entity : Record) :
    compiled.accepts filter entity = (do
      compiled.entityShape.checkRecord entity
      return (← compiled.predicate filter).test entity) := by
  simp only [accepts, predicate, Predicate.test, Expr.lower_eq_holds]
  cases compiled.entityShape.checkRecord entity with
  | error reason => rfl
  | ok checked => cases compiled.expr filter <;> rfl

theorem predicate_of_shape {compiled : CompiledFilter} {filter : Record}
    (same : filter.shape.name = compiled.filterShape.name) :
    ∃ predicate, compiled.predicate filter = .ok predicate := by
  rw [predicate, expr_of_shape same]
  exact ⟨_, rfl⟩

/-- The tree for a filter record is what all bindings demand of it. -/
theorem eq_of_expr {compiled : CompiledFilter} {filter : Record} {tree : Expr}
    (found : compiled.expr filter = .ok tree) :
    tree = .conjunction (compiled.bindings.filterMap (·.fragment? filter)) := by
  rw [expr] at found
  cases checked : compiled.filterShape.checkRecord filter with
  | error reason => simp [checked, bind, Except.bind] at found
  | ok =>
      rw [checked] at found
      cases found
      rfl

theorem expr_of_predicate {compiled : CompiledFilter} {filter : Record} {predicate : Predicate}
    (found : compiled.predicate filter = .ok predicate) :
    compiled.expr filter = .ok predicate.expr := by
  rw [CompiledFilter.predicate] at found
  cases made : compiled.expr filter with
  | error reason => simp [made, bind, Except.bind] at found
  | ok tree =>
      rw [made] at found
      cases found
      rfl

theorem accepts_of_predicate {compiled : CompiledFilter} {filter entity : Record}
    {predicate : Predicate} (found : compiled.predicate filter = .ok predicate)
    (same : entity.shape.name = compiled.entityShape.name) :
    compiled.accepts filter entity = .ok (predicate.test entity) := by
  rw [accepts_eq_predicate, Shape.checkRecord_of_name_eq same, found]
  rfl

end CompiledFilter

/-- The lowered form of a tree and the interpreter agree on every tree and every entity record,
as conditions and as values; so a compiled filter and its predicate accept the same entities. -/
theorem lowered_agrees_with_interpreted :
    (∀ (expr : Expr) (entity : Record),
      expr.lower entity = expr.holds entity none ∧
        expr.accessor.read entity = expr.eval entity none) ∧
    ∀ (compiled : CompiledFilter) (filter entity : Record),
      filter.shape.name = compiled.filterShape.name →
      entity.shape.name = compiled.entityShape.name →
      ∃ predicate, compiled.predicate filter = .ok predicate ∧
        compiled.accepts filter entity = .ok (predicate.test entity) := by
  refine ⟨fun expr entity => ⟨expr.lower_eq_holds entity, expr.read_accessor entity⟩, ?_⟩
  intro compiled filter entity filterShape entityShape
  obtain ⟨predicate, found⟩ := CompiledFilter.predicate_of_shape filterShape
  exact ⟨predicate, found, CompiledFilter.accepts_of_predicate found entityShape⟩

/-- Books by name, some of them with a year. -/
def bookShape : Shape :=
  ⟨"Book", [⟨"Name", .string⟩, ⟨"Year", .nullable (.numeric .i32)⟩], by decide⟩

/-- What is asked of books. The years are of another type than those of the books. -/
def bookFilterShape : Shape :=
  ⟨"BookFilter", [⟨"Name", .string⟩, ⟨"From", .nullable (.numeric .u32)⟩], by decide⟩

def dune : Record :=
  ⟨bookShape, [.string "Dune", .number (.integer ⟨true, .w32⟩ ⟨1965, by decide, by decide⟩)], rfl⟩

/-- The name of a book and its year, which replaces what was no year. -/
def duneByName : List (String × Value) :=
  [("Year", .bool true), ("Name", .string "Dune"),
    ("Year", .number (.integer ⟨true, .w32⟩ ⟨1965, by decide, by decide⟩))]

/-- Any name, and a year from 1960 on. -/
def fromTheSixties : Record :=
  ⟨bookFilterShape, [.null, .number (.integer ⟨false, .w32⟩ ⟨1960, by decide, by decide⟩)], rfl⟩

/-- The year is not before the filter's; both are read as integers of 64 bits. -/
def yearBinding : Binding where
  constraint := .compare ⟨"Year", 1, .nullable (.numeric .i32)⟩
    ⟨"From", 1, .nullable (.numeric .u32)⟩ .greaterOrEqual ⟨some .i64, some .i64, true, true⟩
  rules := {}

def bookFilter : CompiledFilter := .compile bookShape bookFilterShape [yearBinding]

theorem lowered_agrees_with_interpreted_dune :
    fromTheSixties.shape.name = bookFilter.filterShape.name ∧
      dune.shape.name = bookFilter.entityShape.name ∧
      bookFilter.accepts fromTheSixties dune = .ok true ∧
      ∃ predicate, bookFilter.predicate fromTheSixties = .ok predicate ∧
        bookFilter.accepts fromTheSixties dune = .ok (predicate.test dune) :=
  ⟨rfl, rfl, rfl, lowered_agrees_with_interpreted.2 bookFilter fromTheSixties dune rfl rfl⟩

end RecordFilter
