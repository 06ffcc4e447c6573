import RecordFilter.Proofs.Fields
import RecordFilter.Proofs.Lowering

set_option autoImplicit false

/-!
Shapes and records hold what was given. A list of fields makes a shape if its names are fit for one,
and named values make a record if the last value for every field is one its type admits. So a record
has a value for every field of its shape, which is found by name and by position alike.
-/

namespace RecordFilter

/-- The last of the values given for a name, null if there is none. -/
def lastGiven (pairs : List (String × Value)) (name : String) : Value :=
  (pairs.reverse.lookup name).getD .null

theorem Property.IsOf.eq_of_name_eq {shape : Shape} {first second : Property}
    (left : first.IsOf shape) (right : second.IsOf shape) (same : first.name = second.name) :
    first = second := by
  have sameField : (⟨first.name, first.type⟩ : Field) = ⟨second.name, second.type⟩ :=
    Shape.field_eq_of_name_eq (List.mem_of_getElem? left) (List.mem_of_getElem? right) same
  have sameName : shape.names[first.index]? = shape.names[second.index]? := by
    rw [Shape.names, List.getElem?_map, List.getElem?_map, left, right, sameField]
  have inside : first.index < shape.names.length := by
    rw [Shape.names, List.length_map]
    exact (List.getElem?_eq_some_iff.mp left).1
  have sameIndex : first.index = second.index :=
    (List.getElem?_inj inside shape.nodup_names).mp sameName
  have sameType : first.type = second.type := congrArg Field.type sameField
  calc first = ⟨first.name, first.index, first.type⟩ := rfl
    _ = ⟨second.name, second.index, second.type⟩ := by rw [same, sameIndex, sameType]

/-- Fields with different names that are not empty pass the check of a shape. -/
theorem faultless_of_nodup_names {before fields : List Field}
    (named : ∀ field ∈ fields, field.name ≠ "") (distinct : (fields.map (·.name)).Nodup)
    (fresh : ∀ earlier ∈ before, ∀ field ∈ fields, earlier.name ≠ field.name) :
    firstShapeFault? before fields = none := by
  induction fields generalizing before with
  | nil => rfl
  | cons first rest ih =>
      rw [List.map_cons, List.nodup_cons] at distinct
      have unseen : before.any (·.name == first.name) = false := by
        rw [List.any_eq_false]
        intro earlier member
        simpa using fresh earlier member first List.mem_cons_self
      rw [firstShapeFault?, if_neg (named first List.mem_cons_self), unseen]
      apply ih (fun field member => named field (List.mem_cons_of_mem first member)) distinct.2
      intro earlier member field inRest
      rcases List.mem_append.mp member with isBefore | isFirst
      · exact fresh earlier isBefore field (List.mem_cons_of_mem first inRest)
      · rw [List.mem_singleton.mp isFirst]
        intro same
        exact distinct.1 (same ▸ List.mem_map_of_mem inRest)

namespace Shape

variable {shape : Shape} {name : String}

theorem make_eq_ok_iff {fields : List Field} :
    make name fields = .ok shape ↔ shape.name = name ∧ shape.fields = fields := by
  unfold make
  split
  · constructor
    · intro made
      cases made
      exact ⟨rfl, rfl⟩
    · rintro ⟨rfl, rfl⟩
      rfl
  · rename_i fault found
    constructor
    · intro made
      nomatch made
    · rintro ⟨rfl, rfl⟩
      nomatch shape.faultless.symm.trans found

theorem exists_make_iff {fields : List Field} :
    (∃ shape, make name fields = .ok shape) ↔
      (∀ field ∈ fields, field.name ≠ "") ∧ (fields.map (·.name)).Nodup := by
  constructor
  · rintro ⟨shape, made⟩
    obtain ⟨-, rfl⟩ := make_eq_ok_iff.mp made
    exact ⟨name_ne_empty_of_faultless shape.faultless, nodup_names shape⟩
  · rintro ⟨named, distinct⟩
    have faultless : firstShapeFault? [] fields = none :=
      faultless_of_nodup_names named distinct (by simp)
    exact ⟨⟨name, fields, faultless⟩, make_eq_ok_iff.mpr ⟨rfl, rfl⟩⟩

theorem index?_of_property {property : Property} (found : shape.property name = .ok property) :
    shape.index? name = some property.index := by
  unfold Shape.property at found
  split at found
  case h_1 index field foundIndex _ =>
    cases found
    exact foundIndex
  case h_2 => nomatch found

theorem property_of_getElem? {field : Field} {index : Nat}
    (stands : shape.fields[index]? = some field) :
    shape.property field.name = .ok ⟨field.name, index, field.type⟩ := by
  obtain ⟨property, found, sameName, -⟩ := property_of_mem_fields (List.mem_of_getElem? stands)
  have isOf : Property.IsOf ⟨field.name, index, field.type⟩ shape := stands
  rw [found, (property_isOf found).eq_of_name_eq isOf sameName]

theorem field?_eq_some_iff {field : Field} :
    shape.field? name = some field ↔ field ∈ shape.fields ∧ field.name = name := by
  constructor
  · intro found
    exact ⟨List.mem_of_find?_eq_some found, by simpa using List.find?_some found⟩
  · rintro ⟨member, rfl⟩
    have present : (shape.field? field.name).isSome = true := by
      rw [field?, List.find?_isSome]
      exact ⟨field, member, beq_self_eq_true _⟩
    obtain ⟨found, first⟩ := Option.isSome_iff_exists.mp present
    have sameName : found.name = field.name := by simpa using List.find?_some first
    rw [first, field_eq_of_name_eq (List.mem_of_find?_eq_some first) member sameName]

theorem index?_eq_some_iff {index : Nat} :
    shape.index? name = some index ↔ shape.names[index]? = some name := by
  constructor
  · intro found
    obtain ⟨inside, same, -⟩ := List.findIdx?_eq_some_iff_getElem.mp found
    rw [names, List.getElem?_map, List.getElem?_eq_getElem inside]
    exact congrArg some (eq_of_beq same)
  · intro stands
    rw [names, List.getElem?_map] at stands
    obtain ⟨field, standsThere, rfl⟩ := Option.map_eq_some_iff.mp stands
    exact index?_of_property (property_of_getElem? standsThere)

theorem index?_eq_none_iff : shape.index? name = none ↔ name ∉ shape.names := by
  rw [index?, List.findIdx?_eq_none_iff, names, List.mem_map]
  grind

theorem firstRefusal?_eq_none_iff {fields : List Field} {values : List Value} :
    firstRefusal? fields values = none ↔
      ∀ pair ∈ fields.zip values, pair.1.type.admits pair.2 = true := by
  induction fields generalizing values with
  | nil => simp [firstRefusal?]
  | cons field fields ih =>
      cases values with
      | nil => simp [firstRefusal?]
      | cons value values =>
          rw [firstRefusal?, List.zip_cons_cons, List.forall_mem_cons]
          split
          · rename_i admitted
            rw [ih, and_iff_right admitted]
          · rename_i refused
            simp [refused]

theorem recordFault?_eq_none_iff {values : List Value} :
    shape.recordFault? values = none ↔ values.length = shape.fields.length ∧
      ∀ pair ∈ shape.fields.zip values, pair.1.type.admits pair.2 = true := by
  unfold recordFault?
  split
  · rename_i different
    simp [different]
  · rename_i same
    rw [firstRefusal?_eq_none_iff, and_iff_right (not_not.mp same)]

/-- The fault in a list with a value for every field is with the first field that refuses its
own. -/
theorem recordFault?_map (value : Field → Value) :
    shape.recordFault? (shape.fields.map value) =
      (shape.fields.find? fun field => !field.type.admits (value field)).map fun field =>
        .notAdmitted field.operand (value field) := by
  rw [recordFault?, if_neg (not_not.mpr (List.length_map value))]
  induction shape.fields with
  | nil => rfl
  | cons field fields ih =>
      rw [List.map_cons, firstRefusal?, List.find?_cons]
      cases field.type.admits (value field) with
      | true => exact ih
      | false => rfl

theorem recordOf_eq_ok_iff {values : List Value} {record : Record} :
    shape.recordOf values = .ok record ↔ record.shape = shape ∧ record.values = values := by
  unfold recordOf
  split
  · constructor
    · intro made
      cases made
      exact ⟨rfl, rfl⟩
    · rintro ⟨rfl, rfl⟩
      rfl
  · rename_i fault found
    constructor
    · intro made
      nomatch made
    · rintro ⟨rfl, rfl⟩
      nomatch record.faultless.symm.trans found

theorem set_map_of_index? {index : Nat} (found : shape.index? name = some index)
    (value : Field → Value) (given : Value) :
    (shape.fields.map value).set index given =
      shape.fields.map fun field => if field.name = name then given else value field := by
  apply List.ext_getElem?
  intro position
  rw [List.getElem?_set, List.length_map, List.getElem?_map, List.getElem?_map]
  have named := index?_eq_some_iff.mp found
  rw [names, List.getElem?_map] at named
  obtain ⟨field, stands, sameName⟩ := Option.map_eq_some_iff.mp named
  by_cases same : index = position
  · subst same
    have inside := (List.getElem?_eq_some_iff.mp stands).1
    rw [if_pos rfl, if_pos inside, stands, Option.map_some, if_pos sameName]
  · rw [if_neg same]
    cases standsThere : shape.fields[position]? with
    | none => rfl
    | some other =>
        have differs : other.name ≠ name := by
          intro sameName
          have again := index?_of_property (property_of_getElem? standsThere)
          rw [sameName, found] at again
          exact same (Option.some.inj again)
        simp [differs]

/-- Placing named values leaves in each slot the last value given for its field, or what was there
before if there is none. -/
theorem place_of_known {pairs : List (String × Value)}
    (known : ∀ pair ∈ pairs, pair.1 ∈ shape.names) (value : Field → Value) :
    shape.place (shape.fields.map value) pairs = .ok (shape.fields.map fun field =>
      (pairs.reverse.lookup field.name).getD (value field)) := by
  induction pairs generalizing value with
  | nil => rfl
  | cons pair rest ih =>
      obtain ⟨name, given⟩ := pair
      obtain ⟨isField, restKnown⟩ := List.forall_mem_cons.mp known
      obtain ⟨index, found⟩ := Option.ne_none_iff_exists'.mp fun missing =>
        index?_eq_none_iff.mp missing isField
      rw [place, found]
      simp only [set_map_of_index? found, ih restKnown]
      congr 1
      apply List.map_congr_left
      intro field _
      rw [List.reverse_cons, List.lookup_append, List.lookup_cons, List.lookup_nil]
      cases rest.reverse.lookup field.name with
      | some later => rfl
      | none =>
          by_cases same : field.name = name
          · simp [same]
          · simp [same, beq_false_of_ne same]

/-- The first name that is no field's stops the placing, whatever values come with the names. -/
theorem place_of_unknown {pairs : List (String × Value)}
    (first : (pairs.map (·.1)).find? (· ∉ shape.names) = some name) (slots : List Value) :
    shape.place slots pairs = .error (.invalidRecord shape.name (.unknownField name)) := by
  induction pairs generalizing slots with
  | nil => nomatch first
  | cons pair rest ih =>
      rw [List.map_cons, List.find?_cons] at first
      rw [place]
      cases found : shape.index? pair.1 with
      | none =>
          rw [index?_eq_none_iff] at found
          simp only [found, not_false_eq_true, decide_true, Option.some.injEq] at first
          rw [first]
      | some index =>
          have isField : pair.1 ∈ shape.names :=
            List.mem_of_getElem? (index?_eq_some_iff.mp found)
          simp only [isField, not_true_eq_false, decide_false] at first
          exact ih first _

/-- Unknown names are refused first; after that the last value for each field is all that counts. -/
theorem record_eq (pairs : List (String × Value)) :
    shape.record pairs =
      match (pairs.map (·.1)).find? (· ∉ shape.names) with
      | some name => .error (.invalidRecord shape.name (.unknownField name))
      | none => shape.recordOf (shape.fields.map fun field => lastGiven pairs field.name) := by
  rw [record]
  split
  · rename_i name first
    rw [place_of_unknown first]
    rfl
  · rename_i noUnknown
    have known : ∀ pair ∈ pairs, pair.1 ∈ shape.names := by
      simpa using noUnknown
    rw [place_of_known known]
    rfl

theorem exists_recordOf_iff {values : List Value} :
    (∃ record, shape.recordOf values = .ok record) ↔ shape.recordFault? values = none := by
  constructor
  · rintro ⟨record, made⟩
    obtain ⟨rfl, rfl⟩ := recordOf_eq_ok_iff.mp made
    exact record.faultless
  · intro faultless
    exact ⟨⟨shape, values, faultless⟩, recordOf_eq_ok_iff.mpr ⟨rfl, rfl⟩⟩

/-- Named values make a record if they are for fields and the last one for each field fits it. -/
theorem exists_record_iff {pairs : List (String × Value)} :
    (∃ record, shape.record pairs = .ok record) ↔
      (∀ pair ∈ pairs, pair.1 ∈ shape.names) ∧
        ∀ field ∈ shape.fields, field.type.admits (lastGiven pairs field.name) = true := by
  have fits : shape.recordFault? (shape.fields.map fun field => lastGiven pairs field.name) = none ↔
      ∀ field ∈ shape.fields, field.type.admits (lastGiven pairs field.name) = true := by
    rw [recordFault?_map (fun field => lastGiven pairs field.name)]
    simp
  have known : (pairs.map (·.1)).find? (· ∉ shape.names) = none ↔
      ∀ pair ∈ pairs, pair.1 ∈ shape.names := by
    simp
  rw [record_eq, ← fits, ← known]
  cases (pairs.map (·.1)).find? (· ∉ shape.names) with
  | some name => simp
  | none => simp [exists_recordOf_iff]

theorem get_of_record {pairs : List (String × Value)} {record : Record} {index : Nat}
    {field : Field}
    (made : shape.record pairs = .ok record) (stands : shape.fields[index]? = some field) :
    record.get index = lastGiven pairs field.name := by
  rw [record_eq] at made
  split at made
  · nomatch made
  · obtain ⟨-, values⟩ := recordOf_eq_ok_iff.mp made
    rw [Record.get, values, List.getElem?_map, stands]
    rfl

theorem shape_of_record {pairs : List (String × Value)} {record : Record}
    (made : shape.record pairs = .ok record) : record.shape = shape := by
  rw [record_eq] at made
  split at made
  · nomatch made
  · exact (recordOf_eq_ok_iff.mp made).1

end Shape

/-- What is given for a name before another value for it does not count. -/
theorem lastGiven_overwritten {before after : List (String × Value)} {name : String}
    (later : name ∈ after.map (·.1)) (overwritten other : Value) (wanted : String) :
    lastGiven (before ++ (name, overwritten) :: after) wanted =
      lastGiven (before ++ (name, other) :: after) wanted := by
  have again : (after.reverse.lookup name).isSome = true := by
    obtain ⟨pair, member, rfl⟩ := List.mem_map.mp later
    rw [Option.isSome_iff_ne_none, ne_eq, List.lookup_eq_none_iff]
    intro absent
    simpa using absent pair (List.mem_reverse.mpr member)
  simp only [lastGiven, List.reverse_append, List.reverse_cons, List.lookup_append,
    List.lookup_cons, List.lookup_nil]
  by_cases same : wanted = name
  · obtain ⟨value, found⟩ := Option.isSome_iff_exists.mp again
    rw [same, found]
    rfl
  · simp [beq_false_of_ne same]

namespace Record

theorem length_values (record : Record) :
    record.values.length = record.shape.fields.length :=
  (Shape.recordFault?_eq_none_iff.mp record.faultless).1

theorem field?_of_getElem? {record : Record} {index : Nat} {field : Field}
    (stands : record.shape.fields[index]? = some field) :
    record.field? field.name = some (record.get index) := by
  rw [Record.field?, Shape.index?_of_property (Shape.property_of_getElem? stands)]
  rfl

theorem get_of_none {record : Record} {index : Nat}
    (behind : record.shape.fields[index]? = none) : record.get index = .null := by
  have missing : record.values[index]? = none := by
    rw [List.getElem?_eq_none_iff, length_values]
    exact List.getElem?_eq_none_iff.mp behind
  rw [get, missing]
  rfl

theorem field?_of_not_mem {record : Record} {name : String}
    (absent : name ∉ record.shape.names) : record.field? name = none := by
  rw [Record.field?, Shape.index?_eq_none_iff.mpr absent]
  rfl

theorem admits_of_getElem? {record : Record} {index : Nat} {field : Field} {value : Value}
    (stands : record.shape.fields[index]? = some field)
    (held : record.values[index]? = some value) : field.type.admits value = true := by
  apply (Shape.recordFault?_eq_none_iff.mp record.faultless).2 (field, value)
  have paired : (record.shape.fields.zip record.values)[index]? = some (field, value) :=
    List.getElem?_zip_eq_some.mpr ⟨stands, held⟩
  exact List.mem_of_getElem? paired

theorem getElem?_of_index? {record : Record} {name : String} {index : Nat}
    (found : record.shape.index? name = some index) :
    ∃ value, record.values[index]? = some value ∧ record.field? name = some value := by
  have inside : index < record.values.length := by
    have named := List.getElem?_eq_some_iff.mp (Shape.index?_eq_some_iff.mp found)
    obtain ⟨below, -⟩ := named
    rwa [Shape.names, List.length_map, ← record.length_values] at below
  refine ⟨record.values[index], List.getElem?_eq_getElem inside, ?_⟩
  rw [field?, found, Option.map_some, get, List.getElem?_eq_getElem inside, Option.getD_some]

end Record

/-- Shapes and records are made just of what is valid, and keep it. Fields make a shape if their
names are different and not empty, and each is found at its place. Named values make a record if all
names are those of fields and the last value for each field, or null, is one that the field admits;
these values are found by name and by position, no matter what they replaced, and the first name
that is no field's is refused before any value. Every record has one value for each field, of its
type. -/
theorem records_hold_last_given_values :
    (∀ (name : String) (fields : List Field),
      ((∃ shape, Shape.make name fields = .ok shape) ↔
        (∀ field ∈ fields, field.name ≠ "") ∧ (fields.map (·.name)).Nodup) ∧
      ∀ shape, Shape.make name fields = .ok shape →
        shape.name = name ∧ shape.fields = fields ∧ ∀ wanted,
          (∀ index, shape.index? wanted = some index ↔
            (fields.map (·.name))[index]? = some wanted) ∧
          (shape.index? wanted = none ↔ wanted ∉ fields.map (·.name))) ∧
    (∀ (shape : Shape) (pairs : List (String × Value)),
      ((∃ record, shape.record pairs = .ok record) ↔
        (∀ pair ∈ pairs, pair.1 ∈ shape.names) ∧
          ∀ field ∈ shape.fields, field.type.admits (lastGiven pairs field.name) = true) ∧
      (∀ record, shape.record pairs = .ok record →
        record.shape = shape ∧ ∀ index field, shape.fields[index]? = some field →
          record.get index = lastGiven pairs field.name ∧
          record.field? field.name = some (lastGiven pairs field.name)) ∧
      ∀ name, (pairs.map (·.1)).find? (· ∉ shape.names) = some name →
        shape.record pairs = .error (.invalidRecord shape.name (.unknownField name))) ∧
    (∀ (shape : Shape) (before after : List (String × Value)) (name : String)
      (overwritten other : Value), name ∈ after.map (·.1) →
      shape.record (before ++ (name, overwritten) :: after) =
        shape.record (before ++ (name, other) :: after)) ∧
    (∀ (shape : Shape) (values : List Value),
      (∃ record, shape.recordOf values = .ok record) ↔
        values.length = shape.fields.length ∧
          ∀ pair ∈ shape.fields.zip values, pair.1.type.admits pair.2 = true) ∧
    ∀ record : Record,
      record.values.length = record.shape.fields.length ∧
      (∀ (index : Nat) (field : Field) (value : Value),
        record.shape.fields[index]? = some field → record.values[index]? = some value →
        field.type.admits value = true) ∧
      ∀ name index, record.shape.index? name = some index →
        ∃ value, record.values[index]? = some value ∧ record.field? name = some value := by
  refine ⟨?_, ?_, ?_, ?_, ?_⟩
  · intro name fields
    constructor
    · exact Shape.exists_make_iff
    · intro shape made
      obtain ⟨rfl, rfl⟩ := Shape.make_eq_ok_iff.mp made
      refine ⟨rfl, rfl, ?_⟩
      intro wanted
      exact ⟨fun _ => Shape.index?_eq_some_iff, Shape.index?_eq_none_iff⟩
  · intro shape pairs
    refine ⟨Shape.exists_record_iff, ?_, ?_⟩
    · intro record made
      have sameShape := Shape.shape_of_record made
      subst sameShape
      refine ⟨rfl, ?_⟩
      intro index field stands
      have held := Shape.get_of_record made stands
      exact ⟨held, held ▸ Record.field?_of_getElem? stands⟩
    · intro name first
      rw [Shape.record_eq, first]
  · intro shape before after name overwritten other later
    have sameNames : (before ++ (name, overwritten) :: after).map (·.1) =
        (before ++ (name, other) :: after).map (·.1) := by
      simp
    simp only [Shape.record_eq, sameNames, lastGiven_overwritten later overwritten other]
  · intro shape values
    rw [Shape.exists_recordOf_iff, Shape.recordFault?_eq_none_iff]
  · intro record
    exact ⟨record.length_values, fun _ _ _ => Record.admits_of_getElem?,
      fun _ _ => Record.getElem?_of_index?⟩

theorem records_hold_last_given_values_dune :
    Shape.make "Book" bookShape.fields = .ok bookShape ∧ bookShape.index? "Year" = some 1 ∧
      bookShape.record duneByName = .ok dune ∧
      dune.get 1 = lastGiven duneByName "Year" ∧
      dune.field? "Year" = some (lastGiven duneByName "Year") ∧
      bookShape.record (("Author", .bool true) :: duneByName) =
        .error (.invalidRecord "Book" (.unknownField "Author")) ∧
      bookShape.record (("Year", .string "1965") :: duneByName.tail) =
        bookShape.record duneByName ∧
      (ValueType.numeric .i32).orNull.admits (lastGiven duneByName "Year") = true ∧
      ∃ value, dune.values[1]? = some value ∧ dune.field? "Year" = some value := by
  obtain ⟨shapes, records, overwritten, -, faultless⟩ := records_hold_last_given_values
  have made : Shape.make "Book" bookShape.fields = .ok bookShape := rfl
  have recorded : bookShape.record duneByName = .ok dune := rfl
  obtain ⟨-, -, places⟩ := (shapes _ _).2 _ made
  have stands := ((places "Year").1 1).mpr rfl
  obtain ⟨byPosition, byName⟩ := ((records _ _).2.1 _ recorded).2 1 _ rfl
  obtain ⟨-, admitted, held⟩ := faultless dune
  exact ⟨made, stands, recorded, byPosition, byName, (records _ _).2.2 _ rfl,
    overwritten _ [] _ _ _ _ (by decide), admitted 1 _ _ rfl rfl, held _ _ stands⟩

end RecordFilter
