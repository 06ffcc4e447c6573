import RecordFilter.Proofs.Fields
import RecordFilter.Proofs.Conjunction

set_option autoImplicit false

/-!
What a filter depends on. A tree reads the fields it lists and no others, of the entity when it is
evaluated and of the filter when it is bound. The tree that a binding demands lists no entity field
that the binding does not, and everything that is asked of a filter record on the way to it is among
the filter fields that the binding lists, but for the answers of its rules.
-/

namespace RecordFilter

/-- Whether two records hold the same values at the listed positions. -/
def Record.AgreeOn (first second : Record) (indices : List Nat) : Prop :=
  ∀ index ∈ indices, first.get index = second.get index

namespace Expr

/-- A tree has the same value wherever the fields it lists have. -/
theorem eval_congr {expr : Expr} {first second : Record} {left right : Option Record}
    (entity : first.AgreeOn second expr.entityFields)
    (filter : ∀ index ∈ expr.filterFields,
      left.elim .null (·.get index) = right.elim .null (·.get index)) :
    expr.eval first left = expr.eval second right := by
  induction expr with
  | literal value => rfl
  | field index => exact entity index (List.mem_singleton_self index)
  | filterField index => exact filter index (List.mem_singleton_self index)
  | convert operand _ ih | not operand ih | isNull operand ih | isNotNull operand ih =>
      simp only [eval, ih entity filter]
  | compare _ a b iha ihb | and a b iha ihb | or a b iha ihb | contains a b iha ihb
  | text _ a b _ iha ihb | textIn a b _ iha ihb =>
      obtain ⟨entityA, entityB⟩ := List.forall_mem_append.mp entity
      obtain ⟨filterA, filterB⟩ := List.forall_mem_append.mp filter
      simp only [eval, iha entityA filterA, ihb entityB filterB]

/-- Binding puts in the values of the listed filter fields and looks at no others. -/
theorem bind_congr {expr : Expr} {first second : Record}
    (agree : first.AgreeOn second expr.filterFields) : expr.bind first = expr.bind second := by
  induction expr with
  | literal value => rfl
  | field index => rfl
  | filterField index => exact congrArg literal (agree index (List.mem_singleton_self index))
  | convert operand _ ih | not operand ih | isNull operand ih | isNotNull operand ih =>
      simp only [bind, ih agree]
  | compare _ a b iha ihb | and a b iha ihb | or a b iha ihb | contains a b iha ihb
  | text _ a b _ iha ihb | textIn a b _ iha ihb =>
      obtain ⟨agreeA, agreeB⟩ := List.forall_mem_append.mp agree
      simp only [bind, iha agreeA, ihb agreeB]

/-- Joining trees joins what they list. -/
theorem foldl_listed {list : Expr → List Nat} {join : Expr → Expr → Expr}
    (joins : ∀ left right, list (join left right) = list left ++ list right) (first : Expr)
    (conditions : List Expr) :
    list (conditions.foldl join first) = list first ++ conditions.flatMap list := by
  induction conditions generalizing first with
  | nil => simp
  | cons next rest ih => rw [List.foldl_cons, ih, joins, List.flatMap_cons, List.append_assoc]

theorem entityFields_conjunction (conditions : List Expr) :
    (conjunction conditions).entityFields = conditions.flatMap (·.entityFields) := by
  cases conditions with
  | nil => rfl
  | cons first rest => exact foldl_listed (fun _ _ => rfl) first rest

theorem entityFields_disjunction (conditions : List Expr) :
    (disjunction conditions).entityFields = conditions.flatMap (·.entityFields) := by
  cases conditions with
  | nil => rfl
  | cons first rest => exact foldl_listed (fun _ _ => rfl) first rest

theorem filterFields_conjunction (conditions : List Expr) :
    (conjunction conditions).filterFields = conditions.flatMap (·.filterFields) := by
  cases conditions with
  | nil => rfl
  | cons first rest => exact foldl_listed (fun _ _ => rfl) first rest

theorem filterFields_disjunction (conditions : List Expr) :
    (disjunction conditions).filterFields = conditions.flatMap (·.filterFields) := by
  cases conditions with
  | nil => rfl
  | cons first rest => exact foldl_listed (fun _ _ => rfl) first rest

end Expr

/-- Whether every rule gives the same answer on two filter records. -/
structure Rules.AnswerAlike (rules : Rules) (first second : Record) : Prop where
  reversal : ∀ condition ∈ rules.reverseIf, condition first = condition second
  nulls : ∀ inclusion ∈ rules.includeNullIf, inclusion first = inclusion second
  ignoring : ∀ condition ∈ rules.ignoreIf, condition first = condition second
  exclusions : ∀ condition ∈ rules.exclusions, condition first = condition second

theorem Rules.answerAlike_empty (first second : Record) :
    Rules.AnswerAlike {} first second := by
  constructor <;> rintro _ ⟨⟩

namespace Rules.AnswerAlike

variable {rules : Rules} {first second : Record} (alike : rules.AnswerAlike first second)

include alike

theorem isReversed_eq : rules.isReversed first = rules.isReversed second := by
  have same := alike.reversal
  rw [isReversed, isReversed]
  cases reverse : rules.reverseIf with
  | none => rfl
  | some condition => exact same condition reverse

theorem nullDecision_eq : rules.nullDecision first = rules.nullDecision second := by
  have same := alike.nulls
  rw [nullDecision, nullDecision]
  cases decides : rules.includeNullIf with
  | none => rfl
  | some inclusion => exact same inclusion decides

theorem drops_eq : rules.drops first = rules.drops second := by
  have ignored : rules.ignoreIf.any (· first) = rules.ignoreIf.any (· second) := by
    cases ignore : rules.ignoreIf with
    | none => rfl
    | some condition => exact alike.ignoring condition ignore
  have excluded : rules.exclusions.map (· first) = rules.exclusions.map (· second) :=
    List.map_congr_left alike.exclusions
  have any (filter : Record) :
      rules.exclusions.any (· filter) = (rules.exclusions.map (· filter)).any id := by
    rw [List.any_map]
    rfl
  rw [drops, drops, ignored, any, any, excluded]

theorem applicable (constraint : Constraint) :
    (constraint.applicable rules).AnswerAlike first second := by
  cases constraint with
  | raw label expr =>
      refine ⟨?_, ?_, ?_, alike.exclusions⟩ <;> rintro _ ⟨⟩
  | _ => exact alike

end Rules.AnswerAlike

/-- The fields at which a condition reads the entity are those of its two trees and the one that is
looked at for null. -/
theorem Side.mem_entityFields_condition {side : Side} {filter : Record} {reversed : Bool}
    {nulls : Option Bool} {index : Nat}
    (listed : index ∈ (side.condition filter reversed nulls).entityFields) :
    (∃ tree ∈ [side.normal, side.inverse], index ∈ tree.entityFields) ∨
      side.nullOperand = some index := by
  have base (inBase : index ∈
      ((if reversed then side.inverse else side.normal).bind filter).entityFields) :
      ∃ tree ∈ [side.normal, side.inverse], index ∈ tree.entityFields := by
    rw [Expr.entityFields_bind] at inBase
    cases reversed with
    | false => exact ⟨side.normal, by simp, inBase⟩
    | true => exact ⟨side.inverse, by simp, inBase⟩
  unfold condition at listed
  cases nulls with
  | none => exact Or.inl (base listed)
  | some admitted =>
      cases operand : side.nullOperand with
      | none =>
          rw [operand] at listed
          cases admitted <;> exact Or.inl (base listed)
      | some looked =>
          have split : index = looked ∨ index ∈
              ((if reversed then side.inverse else side.normal).bind filter).entityFields := by
            rw [operand] at listed
            cases admitted <;> simpa [Expr.entityFields] using listed
          rcases split with rfl | inBase
          · exact Or.inr rfl
          · exact Or.inl (base inBase)

namespace CompiledBinding

variable {binding : CompiledBinding} {filter : Record} {tree : Expr}

/-- The conditions of the sides that count for a filter record. -/
def conditions (binding : CompiledBinding) (filter : Record) : List Expr :=
  (binding.sides.filter (·.isActive filter)).map
    (·.condition filter (binding.rules.isReversed filter) (binding.rules.nullDecision filter))

theorem fragment?_eq (binding : CompiledBinding) (filter : Record) :
    binding.fragment? filter =
      if binding.isIgnored filter then none
      else match binding.conditions filter with
        | [] => none
        | conditions => some (if binding.rules.isReversed filter then .disjunction conditions
            else .conjunction conditions) := rfl

/-- What a binding demands joins these conditions, in the one way or the other. -/
theorem eq_of_fragment? (demanded : binding.fragment? filter = some tree) :
    binding.isIgnored filter = false ∧
      (tree = .conjunction (binding.conditions filter) ∨
        tree = .disjunction (binding.conditions filter)) := by
  rw [fragment?_eq] at demanded
  cases ignored : binding.isIgnored filter with
  | true => simp [ignored] at demanded
  | false =>
      refine ⟨rfl, ?_⟩
      cases joined : binding.conditions filter with
      | nil => simp [ignored, joined] at demanded
      | cons first rest =>
          cases reversed : binding.rules.isReversed filter <;>
            simp only [ignored, joined, reversed, Bool.false_eq_true, ↓reduceIte,
              Option.some.injEq] at demanded <;> subst demanded
          · exact Or.inl rfl
          · exact Or.inr rfl

/-- So it lists what they list. -/
theorem entityFields_of_fragment? (demanded : binding.fragment? filter = some tree) :
    tree.entityFields = (binding.conditions filter).flatMap (·.entityFields) := by
  obtain ⟨-, rfl | rfl⟩ := eq_of_fragment? demanded
  · exact Expr.entityFields_conjunction _
  · exact Expr.entityFields_disjunction _

theorem filterFields_of_fragment? (demanded : binding.fragment? filter = some tree) :
    tree.filterFields = (binding.conditions filter).flatMap (·.filterFields) := by
  obtain ⟨-, rfl | rfl⟩ := eq_of_fragment? demanded
  · exact Expr.filterFields_conjunction _
  · exact Expr.filterFields_disjunction _

end CompiledBinding

theorem Property.index_of_ignoreIndex {property : Property} {rules : Rules} {index : Nat}
    (found : property.ignoreIndex rules = some index) : property.index = index := by
  unfold ignoreIndex at found
  split at found
  · exact Option.some.inj found
  · nomatch found

namespace Binding

variable {binding : Binding} {filter first second : Record} {tree : Expr}

/-- What a binding demands of the entity is about the fields that the binding lists. -/
theorem mem_entityFields_of_fragment? (demanded : binding.compile.fragment? filter = some tree)
    {index : Nat} (read : index ∈ tree.entityFields) : index ∈ binding.entityFields := by
  rw [CompiledBinding.entityFields_of_fragment? demanded, List.mem_flatMap] at read
  obtain ⟨condition, made, inCondition⟩ := read
  obtain ⟨side, active, rfl⟩ := List.mem_map.mp made
  have member := (List.mem_filter.mp active).1
  rw [mem_entityFields_iff]
  rcases side.mem_entityFields_condition inCondition with ⟨tree, ofSide, inTree⟩ | operand
  · exact Or.inl ⟨tree, List.mem_flatMap.mpr ⟨side, member, ofSide⟩,
      (tree.mem_entityFields_iff index).mp inTree⟩
  · exact Or.inr ⟨side, member, operand⟩

theorem mem_filterFields_of_defaultIgnore {index : Nat}
    (ignores : binding.compile.defaultIgnore = some index) : index ∈ binding.filterFields := by
  obtain ⟨constraint, rules⟩ := binding
  cases constraint with
  | filterRange | raw => nomatch ignores
  | _ =>
      rw [← Property.index_of_ignoreIndex ignores]
      exact List.mem_singleton_self _

theorem mem_filterFields_of_guard {side : Side} (member : side ∈ binding.compile.sides)
    {index : Nat} (guarded : side.guard = some index) : index ∈ binding.filterFields := by
  obtain ⟨constraint, rules⟩ := binding
  cases constraint with
  | filterRange entity min max =>
      simp only [compile, Constraint.sides, List.mem_cons, List.not_mem_nil, or_false] at member
      rcases member with rfl | rfl
      · rw [← Property.index_of_ignoreIndex guarded]
        exact List.mem_cons_self
      · rw [← Property.index_of_ignoreIndex guarded]
        exact List.mem_cons_of_mem _ List.mem_cons_self
  | entityRange filter min max =>
      simp only [compile, Constraint.sides, List.mem_cons, List.not_mem_nil, or_false] at member
      rcases member with rfl | rfl <;> cases guarded
  | _ =>
      rw [List.mem_singleton.mp member] at guarded
      cases guarded

section Alike

variable (agree : first.AgreeOn second binding.filterFields)
  (alike : binding.rules.AnswerAlike first second)

include agree

theorem isActive_congr {side : Side} (member : side ∈ binding.compile.sides) :
    side.isActive first = side.isActive second := by
  rw [Side.isActive, Side.isActive]
  cases guarded : side.guard with
  | none => rfl
  | some index =>
      have same := agree index (mem_filterFields_of_guard member guarded)
      rw [Option.all_some, Option.all_some, same]

theorem condition_congr {side : Side} (member : side ∈ binding.compile.sides) (reversed : Bool)
    (nulls : Option Bool) :
    side.condition first reversed nulls = side.condition second reversed nulls := by
  have bound {tree : Expr} (ofSide : tree ∈ [side.normal, side.inverse]) :
      tree.bind first = tree.bind second := by
    apply Expr.bind_congr
    intro index read
    apply agree
    rw [mem_filterFields_iff]
    exact ⟨tree, List.mem_flatMap.mpr ⟨side, member, ofSide⟩,
      (tree.mem_filterFields_iff index).mp read⟩
  have base : (if reversed then side.inverse else side.normal).bind first =
      (if reversed then side.inverse else side.normal).bind second := by
    cases reversed with
    | false => exact bound (by simp)
    | true => exact bound (by simp)
  unfold Side.condition
  rw [base]

include alike

theorem isIgnored_congr :
    binding.compile.isIgnored first = binding.compile.isIgnored second := by
  have dropped := (alike.applicable binding.constraint).drops_eq
  have default : (binding.compile.defaultIgnore.any fun index => (first.get index).isNull) =
      binding.compile.defaultIgnore.any fun index => (second.get index).isNull := by
    cases ignores : binding.compile.defaultIgnore with
    | none => rfl
    | some index =>
        have same := agree index (mem_filterFields_of_defaultIgnore ignores)
        rw [Option.any_some, Option.any_some, same]
  rw [CompiledBinding.isIgnored, CompiledBinding.isIgnored, default]
  exact congrArg (· || _) dropped

theorem conditions_congr :
    binding.compile.conditions first = binding.compile.conditions second := by
  have ofRules := alike.applicable binding.constraint
  have active : binding.compile.sides.filter (·.isActive first) =
      binding.compile.sides.filter (·.isActive second) :=
    List.filter_congr fun side member => isActive_congr agree member
  have reversal : binding.compile.rules.isReversed first =
      binding.compile.rules.isReversed second := ofRules.isReversed_eq
  have nulls : binding.compile.rules.nullDecision first =
      binding.compile.rules.nullDecision second := ofRules.nullDecision_eq
  rw [CompiledBinding.conditions, CompiledBinding.conditions, active, reversal, nulls]
  apply List.map_congr_left
  intro side counts
  exact condition_congr agree (List.mem_filter.mp counts).1 _ _

theorem fragment?_congr :
    binding.compile.fragment? first = binding.compile.fragment? second := by
  have reversal : binding.compile.rules.isReversed first =
      binding.compile.rules.isReversed second :=
    (alike.applicable binding.constraint).isReversed_eq
  rw [CompiledBinding.fragment?_eq, CompiledBinding.fragment?_eq, isIgnored_congr agree alike,
    conditions_congr agree alike, reversal]

end Alike

end Binding

namespace CompiledFilter

variable {entityShape filterShape : Shape} {bindings : List Binding} {filter : Record} {tree : Expr}

/-- The tree for a filter record reads the entity at fields that are listed by a binding which is
not ignored. -/
theorem mem_entityFields_of_expr
    (found : (compile entityShape filterShape bindings).expr filter = .ok tree) {index : Nat}
    (read : index ∈ tree.entityFields) :
    ∃ binding ∈ bindings, binding.compile.isIgnored filter = false ∧
      index ∈ binding.entityFields := by
  rw [eq_of_expr found, Expr.entityFields_conjunction, List.mem_flatMap] at read
  obtain ⟨fragment, demanded, inFragment⟩ := read
  obtain ⟨compiled, member, fragmentOf⟩ := List.mem_filterMap.mp demanded
  obtain ⟨binding, listed, rfl⟩ := List.mem_map.mp member
  exact ⟨binding, listed, (CompiledBinding.eq_of_fragment? fragmentOf).1,
    Binding.mem_entityFields_of_fragment? fragmentOf inFragment⟩

theorem test_congr {predicate : Predicate} {first second : Record}
    (found : (compile entityShape filterShape bindings).predicate filter = .ok predicate)
    (agree : ∀ binding ∈ bindings, binding.compile.isIgnored filter = false →
      first.AgreeOn second binding.entityFields) :
    predicate.test first = predicate.test second := by
  rw [Predicate.test, Expr.lower_eq_holds, Expr.lower_eq_holds, Expr.holds, Expr.holds]
  apply congrArg Value.isTrue
  apply Expr.eval_congr _ fun _ _ => rfl
  intro index read
  obtain ⟨binding, member, kept, listed⟩ :=
    mem_entityFields_of_expr (expr_of_predicate found) read
  exact agree binding member kept index listed

theorem expr_compile_of_shape (bindings : List Binding)
    (ofFilter : filter.shape.name = filterShape.name) :
    (compile entityShape filterShape bindings).expr filter =
      .ok (.conjunction (bindings.filterMap (·.compile.fragment? filter))) := by
  rw [expr_of_shape ofFilter, compile, List.filterMap_map]
  rfl

end CompiledFilter

/-- Filters read the fields that their bindings list and no others. Two entity records that agree on
the entity fields of the bindings which are not ignored for a filter record are both accepted or
both rejected. Two filter records that agree on the filter fields of all bindings and to which all
rules answer alike get the same tree. Any tree has the same value over records that agree on the
fields it lists, of the entity and of the filter. -/
theorem filters_read_listed_fields (entityShape filterShape : Shape) (bindings : List Binding) :
    (∀ filter first second : Record,
      (∀ binding ∈ bindings, binding.compile.isIgnored filter = false →
        first.AgreeOn second binding.entityFields) →
      (∀ predicate,
        (CompiledFilter.compile entityShape filterShape bindings).predicate filter =
          .ok predicate → predicate.test first = predicate.test second) ∧
      (filter.shape.name = filterShape.name → first.shape.name = entityShape.name →
        second.shape.name = entityShape.name → ∃ accepted,
          (CompiledFilter.compile entityShape filterShape bindings).accepts filter first =
            .ok accepted ∧
          (CompiledFilter.compile entityShape filterShape bindings).accepts filter second =
            .ok accepted)) ∧
    (∀ first second : Record, first.shape.name = filterShape.name →
      second.shape.name = filterShape.name →
      (∀ binding ∈ bindings, first.AgreeOn second binding.filterFields ∧
        binding.rules.AnswerAlike first second) →
      ∃ tree, (CompiledFilter.compile entityShape filterShape bindings).expr first = .ok tree ∧
        (CompiledFilter.compile entityShape filterShape bindings).expr second = .ok tree) ∧
    ∀ (expr : Expr) (first second : Record) (left right : Option Record),
      first.AgreeOn second expr.entityFields →
      (∀ index ∈ expr.filterFields,
        left.elim .null (·.get index) = right.elim .null (·.get index)) →
      expr.eval first left = expr.eval second right := by
  refine ⟨?_, ?_, fun _ _ _ _ _ => Expr.eval_congr⟩
  · intro filter first second agree
    refine ⟨fun predicate found => CompiledFilter.test_congr found agree, ?_⟩
    intro ofFilter ofFirst ofSecond
    obtain ⟨predicate, found⟩ : ∃ predicate,
        (CompiledFilter.compile entityShape filterShape bindings).predicate filter =
          .ok predicate := CompiledFilter.predicate_of_shape ofFilter
    refine ⟨predicate.test first, CompiledFilter.accepts_of_predicate found ofFirst, ?_⟩
    rw [CompiledFilter.test_congr found agree]
    exact CompiledFilter.accepts_of_predicate found ofSecond
  · intro first second ofFirst ofSecond alike
    have demanded : bindings.filterMap (·.compile.fragment? first) =
        bindings.filterMap (·.compile.fragment? second) :=
      List.filterMap_congr fun binding member =>
        Binding.fragment?_congr (alike binding member).1 (alike binding member).2
    refine ⟨_, CompiledFilter.expr_compile_of_shape bindings ofFirst, ?_⟩
    rw [demanded]
    exact CompiledFilter.expr_compile_of_shape bindings ofSecond

/-- A book of the same year as Dune. -/
def dorsai : Record := ⟨bookShape, [.string "Dorsai!", dune.get 1], rfl⟩

/-- The same years, and a name that has no part in it. -/
def namedFromTheSixties : Record :=
  ⟨bookFilterShape, [.string "Dune", fromTheSixties.get 1], rfl⟩

/-- The two books differ in their names, which the filter leaves open. -/
theorem filters_read_listed_fields_dorsai :
    (∀ binding ∈ [yearBinding, nameBinding],
      binding.compile.isIgnored fromTheSixties = false →
        dune.AgreeOn dorsai binding.entityFields) ∧
      (∃ accepted,
        (CompiledFilter.compile bookShape bookFilterShape [yearBinding, nameBinding]).accepts
            fromTheSixties dune = .ok accepted ∧
          (CompiledFilter.compile bookShape bookFilterShape [yearBinding, nameBinding]).accepts
            fromTheSixties dorsai = .ok accepted) ∧
      (∃ tree, bookFilter.expr fromTheSixties = .ok tree ∧
        bookFilter.expr namedFromTheSixties = .ok tree) ∧
      (Expr.compare .equal (.field 1) (.filterField 1)).eval dune (some fromTheSixties) =
        (Expr.compare .equal (.field 1) (.filterField 1)).eval dorsai
          (some namedFromTheSixties) := by
  have agree : ∀ binding ∈ [yearBinding, nameBinding],
      binding.compile.isIgnored fromTheSixties = false →
        dune.AgreeOn dorsai binding.entityFields := by
    intro binding listed kept
    rw [List.mem_cons, List.mem_singleton] at listed
    rcases listed with rfl | rfl
    · exact List.forall_mem_singleton.mpr rfl
    · nomatch kept
  have sameYear : ∀ binding ∈ [yearBinding],
      fromTheSixties.AgreeOn namedFromTheSixties binding.filterFields ∧
        binding.rules.AnswerAlike fromTheSixties namedFromTheSixties := by
    rw [List.forall_mem_singleton]
    exact ⟨List.forall_mem_singleton.mpr rfl, Rules.answerAlike_empty _ _⟩
  have books := filters_read_listed_fields bookShape bookFilterShape [yearBinding, nameBinding]
  have years := filters_read_listed_fields bookShape bookFilterShape [yearBinding]
  have sameValue := years.2.2 (.compare .equal (.field 1) (.filterField 1)) dune dorsai
    (some fromTheSixties) (some namedFromTheSixties) (List.forall_mem_singleton.mpr rfl)
    (List.forall_mem_singleton.mpr rfl)
  exact ⟨agree, (books.1 fromTheSixties dune dorsai agree).2 rfl rfl rfl,
    years.2.1 fromTheSixties namedFromTheSixties rfl rfl sameYear, sameValue⟩

end RecordFilter
