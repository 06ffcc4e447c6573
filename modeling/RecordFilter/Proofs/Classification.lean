import RecordFilter.Proofs.Compatibility
import RecordFilter.Proofs.Discovery
import RecordFilter.Proofs.Registrations
import RecordFilter.Proofs.WellFormed

set_option autoImplicit false

/-!
How finishing fails. A registration needs a binding; without one the error tells whether fields of
one name were passed over because their type has no equality. No declaration by name relates such
fields: a collection never holds an item of its own type. So they are always among what discovery
skips, and the type in the error is that of the first of them.
-/

namespace RecordFilter

open RecordFilter.Except (bind_eq_ok_iff pure_eq_ok_iff)

namespace ValueType

/-- The type without all of its wrappers. -/
def bare : ValueType → ValueType
  | nullable inner => inner.bare
  | t => t

theorem hasEquality_eq_false_iff (type : ValueType) :
    type.comparability.hasEquality = false ↔
      (∃ element, type.bare = list element) ∨
        ∃ c, type.bare = custom c ∧ c.comparability = .opaqueType := by
  induction type with
  | nullable inner ih => exact ih
  | list element => exact iff_of_true rfl (.inl ⟨element, rfl⟩)
  | custom c =>
      cases defined : c.comparability <;>
        simp [comparability, bare, defined, Comparability.hasEquality]
  | _ => simp [comparability, bare, Comparability.hasEquality]

theorem underlying_ne_list (element : ValueType) : element.underlying ≠ list element := by
  intro same
  have size := congrArg sizeOf same
  cases element <;> simp [underlying] at size
  omega

/-- A collection holds no items of its own type. -/
theorem containmentPlan_ne_ok {collection item element : ValueType}
    (holds : collection.element? = some element) (same : item.underlying = collection.underlying)
    (convert : Option NumericType) : element.containmentPlan item ≠ .ok convert := by
  have isList : item.underlying = list element := by
    rw [same]
    unfold element? at holds
    split at holds
    case h_1 found =>
      cases holds
      exact found
    case h_2 => nomatch holds
  intro accepted
  rcases containmentPlan_cases accepted with ⟨same, -, -⟩ | ⟨-, m, n, -, isNumeric, -, -⟩
  · exact underlying_ne_list element (same.trans isList)
  · rw [isList] at isNumeric
    nomatch isNumeric

end ValueType

section Alike

variable {entity filter : Shape} {settings : Settings} {name : String}

theorem Declaration.resolve_ne_ok_of_no_equality {declaration : Declaration} {e f : Property}
    (member : declaration ∈ ofName name) (foundEntity : entity.property name = .ok e)
    (foundFilter : filter.property name = .ok f) (same : e.type.underlying = f.type.underlying)
    (noEquality : e.type.underlying.comparability.hasEquality = false) (binding : Binding) :
    declaration.resolve entity filter settings ≠ .ok binding := by
  intro resolved
  simp only [ofName, List.mem_cons, List.not_mem_nil, or_false] at member
  rcases member with rfl | rfl | rfl | rfl
  · have strings := isString_of_resolve_text foundEntity foundFilter resolved
    have string : e.type.underlying = .string := eq_of_beq (Bool.and_eq_true_iff.mp strings).1
    have equality : ValueType.string.comparability.hasEquality = true := rfl
    rw [string] at noEquality
    exact Bool.false_ne_true (noEquality.symm.trans equality)
  · simp only [resolve, foundEntity, foundFilter, bind_eq_ok_iff, pure_eq_ok_iff, Except.ok.injEq,
      exists_eq_left', Property.comparisonPlan_eq_ok_iff] at resolved
    obtain ⟨-, -, plan, accepted, -⟩ := resolved
    rcases ValueType.comparisonPlan_cases accepted with ⟨-, equality, -⟩ | ⟨different, -⟩
    · exact Bool.false_ne_true (noEquality.symm.trans equality)
    · exact different same
  · simp only [resolve, foundEntity, foundFilter, bind_eq_ok_iff, pure_eq_ok_iff, Except.ok.injEq,
      exists_eq_left', Property.containmentPlan_eq_ok_iff] at resolved
    obtain ⟨-, -, convert, ⟨element, holds, accepted⟩, -⟩ := resolved
    exact ValueType.containmentPlan_ne_ok holds same.symm convert accepted
  · simp only [resolve, foundEntity, foundFilter, bind_eq_ok_iff, pure_eq_ok_iff, Except.ok.injEq,
      exists_eq_left', Property.containmentPlan_eq_ok_iff] at resolved
    obtain ⟨-, -, convert, ⟨element, holds, accepted⟩, -⟩ := resolved
    exact ValueType.containmentPlan_ne_ok holds same convert accepted

theorem found?_eq_none_of_no_equality {e f : Property} (foundEntity : entity.property name = .ok e)
    (foundFilter : filter.property name = .ok f) (same : e.type.underlying = f.type.underlying)
    (noEquality : e.type.underlying.comparability.hasEquality = false) :
    found? entity filter settings name = none := by
  rw [← Option.not_isSome_iff_eq_none, found?_isSome_iff]
  rintro ⟨declaration, member, binding, resolved⟩
  exact Declaration.resolve_ne_ok_of_no_equality member foundEntity foundFilter same noEquality
    binding resolved

theorem unusable?_skipped_eq_some_iff {entityField filterField : Field} {type : ValueType} :
    (Finding.skipped entityField filterField).unusable? = some type ↔
      entityField.type.underlying = type ∧ filterField.type.underlying = type ∧
        type.comparability.hasEquality = false := by
  simp only [Finding.unusable?, Option.ite_none_right_eq_some, Bool.and_eq_true, decide_eq_true_eq,
    Bool.not_eq_true', Option.some.injEq]
  constructor
  · rintro ⟨⟨same, noEquality⟩, rfl⟩
    exact ⟨rfl, same.symm, noEquality⟩
  · rintro ⟨rfl, same, noEquality⟩
    exact ⟨⟨same.symm, noEquality⟩, rfl⟩

/-- Two fields of one name are unusable exactly if they are of one type without an equality: then
they are not bound, and other fields that are not bound do not count. -/
theorem unusable?_findBinding_eq_some_iff {entityField filterField : Field} {type : ValueType}
    (ofEntity : entityField ∈ entity.fields) (ofFilter : filterField ∈ filter.fields)
    (sameName : entityField.name = filterField.name) :
    (findBinding entity filter settings entityField filterField).unusable? = some type ↔
      entityField.type.underlying = type ∧ filterField.type.underlying = type ∧
        type.comparability.hasEquality = false := by
  rw [findBinding_eq ofEntity ofFilter sameName, ← unusable?_skipped_eq_some_iff]
  cases found : found? entity filter settings filterField.name with
  | none => rfl
  | some binding =>
      -- Fields that are bound are unusable neither way, as nothing is found for those of one type.
      refine iff_of_false (fun bound => nomatch bound) ?_
      rw [unusable?_skipped_eq_some_iff]
      rintro ⟨rfl, same, noEquality⟩
      obtain ⟨e, foundEntity, -, entityType⟩ := Shape.property_of_mem_fields ofEntity
      obtain ⟨f, foundFilter, -, filterType⟩ := Shape.property_of_mem_fields ofFilter
      rw [sameName] at foundEntity
      rw [← entityType] at same noEquality
      rw [← filterType] at same
      have nothing : found? entity filter settings filterField.name = none :=
        found?_eq_none_of_no_equality foundEntity foundFilter same.symm noEquality
      nomatch nothing.symm.trans found

end Alike

namespace Configuration

variable (config : Configuration)

/-- Whether a filter field is claimed on neither side and the entity field of its name is of the
same type, which has no equality. A wrapper of either type does not matter. -/
def IsUnusable (field : Field) (type : ValueType) : Prop :=
  field.name ∉ config.claimedFilter ∧ field.name ∉ config.claimedEntity ∧
    ∃ entityField, config.entity.field? field.name = some entityField ∧
      entityField.type.underlying = type ∧ field.type.underlying = type ∧
        type.comparability.hasEquality = false

/-- Whether this is the type of the first such field, in the order of the filter's fields. -/
def FirstUnusable (type : ValueType) : Prop :=
  ∃ before field after, config.filter.fields = before ++ field :: after ∧
    config.IsUnusable field type ∧ ∀ other ∈ before, ∀ type, ¬config.IsUnusable other type

/-- The type in which discovery finds a filter field unusable. -/
def unusable? (field : Field) : Option ValueType :=
  if config.claimedFilter.contains field.name || config.claimedEntity.contains field.name then none
  else (config.entity.field? field.name).bind fun entityField =>
    (findBinding config.entity config.filter config.settings entityField field).unusable?

theorem findSome?_unusable?_findings :
    config.findings.findSome? (·.unusable?) = config.filter.fields.findSome? config.unusable? := by
  rw [findings, discover, ← List.head?_filterMap, List.filterMap_filterMap, List.head?_filterMap]
  congr 1
  funext field
  rw [unusable?]
  split
  · rfl
  · cases config.entity.field? field.name <;> rfl

variable {config}

theorem unusable?_eq_some_iff {field : Field} {type : ValueType}
    (ofFilter : field ∈ config.filter.fields) :
    config.unusable? field = some type ↔ config.IsUnusable field type := by
  have claimed : (config.claimedFilter.contains field.name ||
      config.claimedEntity.contains field.name) = true ↔
      ¬(field.name ∉ config.claimedFilter ∧ field.name ∉ config.claimedEntity) := by
    rw [Bool.or_eq_true, List.contains_iff_mem, List.contains_iff_mem, not_and_or, not_not, not_not]
  rw [unusable?, IsUnusable, ← and_assoc]
  split
  case isTrue taken =>
    exact iff_of_false (fun found => nomatch found) fun free => claimed.mp taken free.1
  case isFalse free =>
    rw [claimed, not_not] at free
    rw [and_iff_right free, Option.bind_eq_some_iff]
    refine exists_congr fun entityField => and_congr_right fun found => ?_
    have sameName : entityField.name = field.name := by simpa using List.find?_some found
    exact unusable?_findBinding_eq_some_iff (List.mem_of_find?_eq_some found) ofFilter sameName

theorem unusable?_eq_none_iff {field : Field} (ofFilter : field ∈ config.filter.fields) :
    config.unusable? field = none ↔ ∀ type, ¬config.IsUnusable field type := by
  simp only [Option.eq_none_iff_forall_ne_some, ne_eq, unusable?_eq_some_iff ofFilter]

/-- The first finding that is unusable is that of the first unusable field. -/
theorem findSome?_unusable?_eq_some_iff {type : ValueType} :
    config.findings.findSome? (·.unusable?) = some type ↔ config.FirstUnusable type := by
  rw [findSome?_unusable?_findings, List.findSome?_eq_some_iff]
  refine exists_congr fun before => exists_congr fun field => exists_congr fun after =>
    and_congr_right fun split => ?_
  have member : field ∈ config.filter.fields :=
    split ▸ List.mem_append_right before List.mem_cons_self
  have earlier : ∀ other ∈ before, other ∈ config.filter.fields :=
    fun other listed => split ▸ List.mem_append_left _ listed
  rw [unusable?_eq_some_iff member]
  refine and_congr_right fun _ => forall₂_congr fun other listed => ?_
  exact unusable?_eq_none_iff (earlier other listed)

theorem findSome?_unusable?_eq_none_iff :
    config.findings.findSome? (·.unusable?) = none ↔
      ∀ field ∈ config.filter.fields, ∀ type, ¬config.IsUnusable field type := by
  rw [findSome?_unusable?_findings, List.findSome?_eq_none_iff]
  exact forall₂_congr fun field ofFilter => unusable?_eq_none_iff ofFilter

theorem FirstUnusable.unique {type other : ValueType} (first : config.FirstUnusable type)
    (another : config.FirstUnusable other) : type = other := by
  rw [← findSome?_unusable?_eq_some_iff] at first another
  exact Option.some.inj (first.symm.trans another)

theorem exists_firstUnusable_iff :
    (∃ type, config.FirstUnusable type) ↔
      ∃ field ∈ config.filter.fields, ∃ type, config.IsUnusable field type := by
  rw [← not_iff_not]
  simp only [not_exists, not_and, ← findSome?_unusable?_eq_some_iff]
  rw [← findSome?_unusable?_eq_none_iff, Option.eq_none_iff_forall_ne_some]

theorem FirstUnusable.list_or_opaque {type : ValueType} (first : config.FirstUnusable type) :
    (∃ element, type.bare = .list element) ∨
      ∃ c, type.bare = .custom c ∧ c.comparability = .opaqueType := by
  obtain ⟨_, _, _, _, ⟨-, -, _, -, -, -, noEquality⟩, -⟩ := first
  exact type.hasEquality_eq_false_iff.mp noEquality

/-- Finishing fails without a binding, and for one of two reasons. -/
theorem finish_eq_error_iff {reason : FilterError} :
    config.finish = .error reason ↔
      (config.bindings = [] ∧ discoveredBindings config.findings = []) ∧
        ((∃ type, config.FirstUnusable type ∧ reason = .trivialRegistration config.pair type) ∨
          (∀ type, ¬config.FirstUnusable type) ∧ reason = .noUsableBinding config.pair) := by
  have required : config.finish = .error reason ↔
      requireBindings config.bindings config.findings config.pair = .error reason := by
    rw [finish, Except.bind_eq_error_iff]
    apply or_iff_left
    rintro ⟨_, _, failed⟩
    cases failed
  have empty : (config.bindings.isEmpty && (discoveredBindings config.findings).isEmpty) = true ↔
      config.bindings = [] ∧ discoveredBindings config.findings = [] := by
    rw [Bool.and_eq_true, List.isEmpty_iff, List.isEmpty_iff]
  simp only [required, requireBindings, ← findSome?_unusable?_eq_some_iff]
  split
  case isTrue none =>
    rw [and_iff_right (empty.mp none)]
    cases config.findings.findSome? (·.unusable?) <;> simp [eq_comm]
  case isFalse some =>
    apply iff_of_false
    · intro failed
      cases failed
    · exact fun failed => some (empty.mpr failed.1)

/-- A registration is reported as trivial for the type of the first unusable field. -/
theorem eq_trivialRegistration_iff {reason : FilterError} (failed : config.finish = .error reason)
    (type : ValueType) :
    reason = .trivialRegistration config.pair type ↔ config.FirstUnusable type := by
  obtain ⟨-, ⟨other, first, rfl⟩ | ⟨none, rfl⟩⟩ := finish_eq_error_iff.mp failed
  · rw [FilterError.trivialRegistration.injEq, and_iff_right rfl]
    constructor
    · rintro rfl
      exact first
    · exact fun another => first.unique another
  · apply iff_of_false _ (none type)
    intro named
    cases named

theorem exists_finish_eq_error_iff :
    (∃ reason, config.finish = .error reason) ↔
      config.bindings = [] ∧ discoveredBindings config.findings = [] := by
  constructor
  · rintro ⟨reason, failed⟩
    exact (finish_eq_error_iff.mp failed).1
  · rintro ⟨noneDeclared, noneFound⟩
    cases finished : config.finish with
    | error reason => exact ⟨reason, rfl⟩
    | ok registration =>
        have usable := requireBindings_eq_ok_iff.mp (finish_eq_ok_iff.mp finished).1
        rw [noneDeclared, noneFound] at usable
        exact absurd rfl usable

end Configuration

theorem Builder.find?_of_configure {builder : Builder} {entityShape filterShape : Shape}
    {start : Configuration} (configured : builder.configure entityShape filterShape = .ok start) :
    builder.find? (entityShape.pairWith filterShape) = none := by
  unfold Builder.configure at configured
  split at configured
  case isTrue => nomatch configured
  case isFalse free => exact Option.not_isSome_iff_eq_none.mp free

/-- An attempt on a new pair of which the configuration does not finish leaves the builder alone. -/
theorem Builder.runOn_perform_of_unfinished {builder : Builder} {attempt : Attempt}
    {reason : FilterError} (new : builder.find? attempt.pair = none)
    (finishes : attempt.finishes = true)
    (failed : (attempt.configuration builder.settings).finish = .error reason) :
    (perform attempt).runOn builder = (.error reason, builder) := by
  rw [runOn_perform, new, finishes, if_pos rfl, runOn_enter, failed]

/-- Finishing fails exactly when there is nothing to filter by, and tells why. After any run of
calls it fails if no declaration was accepted and nothing is discovered, and in no other case. The
error is then that of a trivial registration if the filter has a field that is claimed on neither
side and whose entity field of the same name is of the same type, without an equality; it gives the
type of the first such field, which is a list or an opaque custom type. Otherwise it is that of a
pair with no usable binding. Either way the builder is what it was before the attempt, and the pair
can be configured again. -/
theorem finishing_fails_without_bindings {builder : Builder} {entityShape filterShape : Shape}
    {start config : Configuration} {calls : List Call}
    (configured : builder.configure entityShape filterShape = .ok start)
    (reached : start.run calls = config) :
    ((∃ reason, config.finish = .error reason) ↔
      start.acceptedBindings calls = [] ∧ discoveredBindings config.findings = []) ∧
    ∀ reason, config.finish = .error reason →
      ((∃ type, reason = .trivialRegistration (entityShape.pairWith filterShape) type) ↔
        ∃ field ∈ filterShape.fields, ∃ type, config.IsUnusable field type) ∧
      (∀ type, reason = .trivialRegistration (entityShape.pairWith filterShape) type →
        config.FirstUnusable type ∧
          ((∃ element, type.bare = .list element) ∨
            ∃ c, type.bare = .custom c ∧ c.comparability = .opaqueType)) ∧
      ((∀ type, reason ≠ .trivialRegistration (entityShape.pairWith filterShape) type) →
        reason = .noUsableBinding (entityShape.pairWith filterShape)) ∧
      ∀ result after,
        (Builder.perform (.configure entityShape filterShape calls true)).runOn builder =
          (result, after) →
        result = .error reason ∧ after = builder ∧
          after.configure entityShape filterShape = .ok start := by
  obtain ⟨-, ofFilter, -⟩ := Builder.run_of_configure configured calls
  have accepted := Builder.bindings_of_configure configured calls
  have ofPair := Builder.pair_of_configure configured calls
  rw [reached] at ofFilter accepted ofPair
  refine ⟨accepted ▸ Configuration.exists_finish_eq_error_iff, fun reason failed => ?_⟩
  obtain ⟨-, why⟩ := Configuration.finish_eq_error_iff.mp failed
  have trivial := Configuration.eq_trivialRegistration_iff failed
  rw [ofPair] at why trivial
  refine ⟨?_, ?_, ?_, ?_⟩
  · simp only [trivial, Configuration.exists_firstUnusable_iff, ofFilter]
  · intro type named
    have first := (trivial type).mp named
    exact ⟨first, first.list_or_opaque⟩
  · intro unnamed
    rcases why with ⟨type, -, named⟩ | ⟨-, unusable⟩
    · exact absurd named (unnamed type)
    · exact unusable
  · intro result after ran
    have fresh : builder.find? (entityShape.pairWith filterShape) = none :=
      Builder.find?_of_configure configured
    have unfinished : (Attempt.configuration builder.settings
        (.configure entityShape filterShape calls true)).finish = .error reason := by
      rw [Attempt.configuration, ← Builder.eq_of_configure configured, reached, failed]
    rw [Builder.runOn_perform_of_unfinished fresh rfl unfinished] at ran
    obtain ⟨rfl, rfl⟩ := Prod.mk.inj ran
    exact ⟨rfl, rfl, configured⟩

/-- A document has a date, tags and a body. -/
def documentShape : Shape :=
  ⟨"Document", [⟨"Date", .dateTime⟩, ⟨"Tags", .list .string⟩,
    ⟨"Body", .custom ⟨"Blob", .opaqueType, true⟩⟩], by decide⟩

/-- What is asked of documents: whether there is a date, the tags in their order, and the body. -/
def documentFilterShape : Shape :=
  ⟨"DocumentFilter", [⟨"Date", .bool⟩, ⟨"Tags", .list .string⟩,
    ⟨"Body", .custom ⟨"Blob", .opaqueType, true⟩⟩], by decide⟩

def documentStart : Configuration :=
  { entity := documentShape, filter := documentFilterShape, settings := {} }

/-- With the tags out of the way it is the body that cannot be compared, and without it nothing. -/
theorem finishing_fails_without_bindings_document :
    ({} : Builder).configure documentShape documentFilterShape = .ok documentStart ∧
      (documentStart.run [.excludeFilter "Tags"]).FirstUnusable
        (.custom ⟨"Blob", .opaqueType, true⟩) ∧
      (Builder.perform (.configure documentShape documentFilterShape [.excludeFilter "Tags"]
          true)).runOn {} =
        (.error (.trivialRegistration ⟨"Document", "DocumentFilter"⟩
          (.custom ⟨"Blob", .opaqueType, true⟩)), {}) ∧
      (documentStart.run [.excludeFilter "Tags", .excludeFilter "Body"]).finish =
        .error (.noUsableBinding ⟨"Document", "DocumentFilter"⟩) ∧
      ¬∃ field ∈ documentFilterShape.fields, ∃ type,
        (documentStart.run [.excludeFilter "Tags", .excludeFilter "Body"]).IsUnusable field
          type := by
  have configured : ({} : Builder).configure documentShape documentFilterShape =
      .ok documentStart := rfl
  obtain ⟨-, classified⟩ := finishing_fails_without_bindings configured
    (rfl : documentStart.run [.excludeFilter "Tags"] = _)
  obtain ⟨-, named, -, unchanged⟩ := classified _ rfl
  obtain ⟨-, unclassified⟩ := finishing_fails_without_bindings configured
    (rfl : documentStart.run [.excludeFilter "Tags", .excludeFilter "Body"] = _)
  obtain ⟨unusable, -⟩ := unclassified (.noUsableBinding ⟨"Document", "DocumentFilter"⟩) rfl
  refine ⟨configured, (named _ rfl).1, ?_, rfl, ?_⟩
  · obtain ⟨failed, same, -⟩ := unchanged _ _ rfl
    exact Prod.ext failed same
  · rintro found
    obtain ⟨type, named⟩ := unusable.mpr found
    nomatch named

end RecordFilter
