import Mathlib.Data.List.TakeWhile
import RecordFilter.Value.Match

set_option autoImplicit false

/-!
Ignoring case and the final sigma. A text is brought to lower case as a whole, and what becomes of
a capital sigma depends on the characters around it. Equal texts stay equal, but a text that occurs
in another one may occur in it no more: it does wherever each of its capital sigmas is at the end of
a word in the whole exactly if it is on its own.
-/

namespace RecordFilter

namespace Text

/-- Whether a capital sigma between two texts, the first one nearest first, ends a word. -/
def endsWord (before after : List Char) : Bool := startsCased before && !startsCased after

/-- The lower case of a character between two texts. -/
def lowerBetween (before : List Char) (c : Char) (after : List Char) : List Char :=
  if c = 'Σ' then [if endsWord before after then 'ς' else 'σ'] else lowerChar c

/-- The lower case of the middle one of three texts, the first one nearest first. -/
def lowercaseBetween (before : List Char) : List Char → List Char → List Char
  | [], _ => []
  | c :: rest, after =>
    lowerBetween before c (rest ++ after) ++ lowercaseBetween (c :: before) rest after

section Contexts

variable (before after : List Char)

theorem lowercaseAfter_append (text : List Char) :
    lowercaseAfter before (text ++ after) =
      lowercaseBetween before text after ++ lowercaseAfter (text.reverse ++ before) after := by
  induction text generalizing before with
  | nil => rfl
  | cons c rest ih =>
      rw [List.cons_append, lowercaseAfter, lowercaseBetween, ih, List.append_assoc,
        List.reverse_cons, List.append_assoc, List.singleton_append]
      rfl

theorem lowercaseAfter_eq_lowercaseBetween (text : List Char) :
    lowercaseAfter before text = lowercaseBetween before text [] := by
  simpa [lowercaseAfter] using lowercaseAfter_append before [] text

theorem lowercase_eq_lowercaseBetween (text : List Char) :
    lowercase text = lowercaseBetween [] text [] :=
  lowercaseAfter_eq_lowercaseBetween [] text

/-- The whole in lower case has the lower case of the middle one in it. -/
theorem lowercase_append (text : List Char) :
    lowercase (before ++ text ++ after) =
      lowercaseBetween [] before (text ++ after) ++ lowercaseBetween before.reverse text after ++
        lowercaseBetween (before ++ text).reverse after [] := by
  rw [lowercase, List.append_assoc, lowercaseAfter_append, lowercaseAfter_append,
    lowercaseAfter_eq_lowercaseBetween, List.append_nil, List.reverse_append, List.append_assoc]

end Contexts

section Agreement

variable {before after other otherAfter : List Char}

theorem lowerBetween_eq_iff {c : Char} :
    lowerBetween before c after = lowerBetween other c otherAfter ↔
      (c = 'Σ' → endsWord before after = endsWord other otherAfter) := by
  by_cases sigma : c = 'Σ'
  · cases first : endsWord before after <;> cases second : endsWord other otherAfter <;>
      simp [lowerBetween, sigma, first, second]
  · simp [lowerBetween, sigma]

theorem length_lowerBetween (c : Char) :
    (lowerBetween before c after).length = (lowerBetween other c otherAfter).length := by
  by_cases sigma : c = 'Σ' <;> simp [lowerBetween, sigma]

theorem length_lowercaseBetween (text : List Char) :
    (lowercaseBetween before text after).length =
      (lowercaseBetween other text otherAfter).length := by
  induction text generalizing before other with
  | nil => rfl
  | cons c rest ih =>
      rw [lowercaseBetween, lowercaseBetween, List.length_append, List.length_append,
        length_lowerBetween c, ih]

theorem forall_sigma_cons_iff {c : Char} {rest : List Char} {P : List Char → List Char → Prop} :
    (∀ left right, c :: rest = left ++ 'Σ' :: right → P left right) ↔
      (c = 'Σ' → P [] rest) ∧
        ∀ left right, rest = left ++ 'Σ' :: right → P (c :: left) right := by
  constructor
  · intro all
    exact ⟨fun sigma => all [] rest (by rw [sigma, List.nil_append]),
      fun left right split => all (c :: left) right (by rw [split, List.cons_append])⟩
  · rintro ⟨first, others⟩ left right split
    cases left with
    | nil =>
        obtain ⟨sigma, rfl⟩ := List.cons.inj split
        exact first sigma
    | cons d left =>
        obtain ⟨rfl, rest⟩ := List.cons.inj split
        exact others left right rest

/-- A text has the same lower case between two pairs of texts if each of its capital sigmas ends a
word between the ones exactly if it does between the others. -/
theorem lowercaseBetween_eq_iff {text : List Char} :
    lowercaseBetween before text after = lowercaseBetween other text otherAfter ↔
      ∀ left right, text = left ++ 'Σ' :: right →
        endsWord (left.reverse ++ before) (right ++ after) =
          endsWord (left.reverse ++ other) (right ++ otherAfter) := by
  induction text generalizing before other with
  | nil => simp [lowercaseBetween]
  | cons c rest ih =>
      -- Whatever is around, the first character makes as many characters, so those of the rest are
      -- compared with those of the rest.
      have parts : lowercaseBetween before (c :: rest) after =
          lowercaseBetween other (c :: rest) otherAfter ↔
          lowerBetween before c (rest ++ after) = lowerBetween other c (rest ++ otherAfter) ∧
            lowercaseBetween (c :: before) rest after =
              lowercaseBetween (c :: other) rest otherAfter := by
        rw [lowercaseBetween, lowercaseBetween]
        exact ⟨fun same => List.append_inj same (length_lowerBetween c),
          fun same => by rw [same.1, same.2]⟩
      rw [parts, lowerBetween_eq_iff, ih, forall_sigma_cons_iff]
      simp only [List.reverse_nil, List.nil_append, List.reverse_cons, List.append_assoc,
        List.singleton_append]

end Agreement

/-- Whether each capital sigma of a text, the middle one of three, ends a word in the whole exactly
if it does in the text on its own. -/
def SigmasAlike (before text after : List Char) : Prop :=
  ∀ left right, text = left ++ 'Σ' :: right →
    endsWord (before ++ left).reverse (right ++ after) = endsWord left.reverse right

theorem sigmasAlike_iff {before text after : List Char} :
    SigmasAlike before text after ↔
      lowercaseBetween before.reverse text after = lowercase text := by
  rw [lowercase_eq_lowercaseBetween, lowercaseBetween_eq_iff]
  simp only [SigmasAlike, List.reverse_append, List.append_nil]

instance (before text after : List Char) : Decidable (SigmasAlike before text after) :=
  decidable_of_iff _ sigmasAlike_iff.symm

theorem sigmasAlike_alone (text : List Char) : SigmasAlike [] text [] := by
  intro left right _
  rw [List.nil_append, List.append_nil]

theorem length_lowercase (before text after : List Char) :
    (lowercase text).length = (lowercaseBetween before text after).length := by
  rw [lowercase_eq_lowercaseBetween, length_lowercaseBetween text]

/-- The lower case of a text starts that of a longer one, which the text starts, exactly if the
capital sigmas are alike in both. -/
theorem lowercase_prefix_iff {text after : List Char} :
    lowercase text <+: lowercase (text ++ after) ↔ SigmasAlike [] text after := by
  have whole : lowercase (text ++ after) =
      lowercaseBetween [] text after ++ lowercaseBetween text.reverse after [] := by
    simpa [lowercaseBetween] using lowercase_append [] after text
  rw [whole]
  constructor
  · rintro ⟨rest, same⟩
    exact sigmasAlike_iff.mpr (List.append_inj same (length_lowercase [] text after)).1.symm
  · intro alike
    have same : lowercaseBetween [] text after = lowercase text := sigmasAlike_iff.mp alike
    rw [same]
    exact List.prefix_append _ _

theorem lowercase_suffix_iff {before text : List Char} :
    lowercase text <:+ lowercase (before ++ text) ↔ SigmasAlike before text [] := by
  have whole : lowercase (before ++ text) =
      lowercaseBetween [] before text ++ lowercaseBetween before.reverse text [] := by
    simpa [lowercaseBetween] using lowercase_append before [] text
  rw [whole]
  constructor
  · rintro ⟨rest, same⟩
    exact sigmasAlike_iff.mpr
      (List.append_inj' same (length_lowercase before.reverse text [])).2.symm
  · intro alike
    rw [sigmasAlike_iff.mp alike]
    exact List.suffix_append _ _

theorem lowercase_infix {before text after : List Char} (alike : SigmasAlike before text after) :
    lowercase text <:+: lowercase (before ++ text ++ after) := by
  rw [lowercase_append, sigmasAlike_iff.mp alike]
  exact List.infix_append _ _ _

theorem occursIn_iff_infix (pattern value : List Char) :
    occursIn pattern value = true ↔ pattern <:+: value := by
  induction value with
  | nil => rw [occursIn, List.isEmpty_iff, List.infix_nil]
  | cons c rest ih =>
      rw [occursIn, Bool.or_eq_true, List.isPrefixOf_iff_prefix, ih, List.infix_cons_iff]

end Text

namespace TextOp

/-- Whether a test lets a value have characters before and after the pattern. -/
def Allows (op : TextOp) (before after : List Char) : Prop :=
  match op with
  | equals => before = [] ∧ after = []
  | contains => True
  | startsWith => before = []
  | endsWith => after = []

theorem holds_iff (op : TextOp) (value pattern : List Char) :
    op.holds value pattern = true ↔
      ∃ before after, op.Allows before after ∧ before ++ pattern ++ after = value := by
  cases op with
  | equals =>
      rw [holds, beq_iff_eq]
      constructor
      · rintro rfl
        exact ⟨[], [], ⟨rfl, rfl⟩, List.append_nil value⟩
      · rintro ⟨before, after, ⟨rfl, rfl⟩, rfl⟩
        exact List.append_nil pattern
  | contains =>
      rw [holds, Text.occursIn_iff_infix]
      simp only [Allows, true_and]
      rfl
  | startsWith =>
      rw [holds, List.isPrefixOf_iff_prefix]
      simp [Allows, List.IsPrefix]
  | endsWith =>
      rw [holds, List.isSuffixOf_iff_suffix]
      simp [Allows, List.IsSuffix]

/-- Whether the pattern is in the value, with what the test allows around it, so that its capital
sigmas are alike in both. -/
def FindsAlike (op : TextOp) (value pattern : List Char) : Prop :=
  ∃ before after, op.Allows before after ∧ before ++ pattern ++ after = value ∧
    Text.SigmasAlike before pattern after

theorem FindsAlike.holds_lowercase {op : TextOp} {value pattern : List Char}
    (found : op.FindsAlike value pattern) :
    op.holds (Text.lowercase value) (Text.lowercase pattern) = true := by
  obtain ⟨before, after, allowed, rfl, alike⟩ := found
  cases op with
  | equals =>
      obtain ⟨rfl, rfl⟩ := allowed
      simp [holds]
  | contains => exact (Text.occursIn_iff_infix _ _).mpr (Text.lowercase_infix alike)
  | startsWith =>
      obtain rfl := allowed
      exact List.isPrefixOf_iff_prefix.mpr (Text.lowercase_prefix_iff.mpr alike)
  | endsWith =>
      obtain rfl := allowed
      rw [List.append_nil]
      exact List.isSuffixOf_iff_suffix.mpr (Text.lowercase_suffix_iff.mpr alike)

/-- Where a test tells the place of the pattern, the value passes in lower case only then. -/
theorem findsAlike_of_holds {op : TextOp} {value pattern : List Char} (placed : op ≠ contains)
    (passed : op.holds value pattern = true)
    (folded : op.holds (Text.lowercase value) (Text.lowercase pattern) = true) :
    op.FindsAlike value pattern := by
  obtain ⟨before, after, allowed, rfl⟩ := (op.holds_iff value pattern).mp passed
  refine ⟨before, after, allowed, rfl, ?_⟩
  cases op with
  | equals =>
      obtain ⟨rfl, rfl⟩ := allowed
      exact Text.sigmasAlike_alone pattern
  | contains => exact absurd rfl placed
  | startsWith =>
      obtain rfl := allowed
      exact Text.lowercase_prefix_iff.mp (List.isPrefixOf_iff_prefix.mp folded)
  | endsWith =>
      obtain rfl := allowed
      rw [List.append_nil] at folded
      exact Text.lowercase_suffix_iff.mp (List.isSuffixOf_iff_suffix.mp folded)

end TextOp

namespace Text

theorem startsCased_append {text : List Char} (counts : ∃ c ∈ text, isCaseIgnorable c = false)
    (after : List Char) : startsCased (text ++ after) = startsCased text := by
  obtain ⟨c, member, counts⟩ := counts
  rw [startsCased, startsCased, List.dropWhile_append]
  cases found : text.dropWhile isCaseIgnorable with
  | nil =>
      have ignorable := List.dropWhile_eq_nil_iff.mp found c member
      exact absurd (ignorable.symm.trans counts) Bool.true_eq_false.mp
  | cons first rest => rfl

/-- Whether each capital sigma of a text has characters before and after it that are not
case-ignorable. -/
def HasInnerSigmas (text : List Char) : Prop :=
  ∀ left right, text = left ++ 'Σ' :: right →
    (∃ c ∈ left, isCaseIgnorable c = false) ∧ ∃ c ∈ right, isCaseIgnorable c = false

theorem HasInnerSigmas.alike {text : List Char} (inner : HasInnerSigmas text)
    (before after : List Char) : SigmasAlike before text after := by
  intro left right split
  obtain ⟨⟨c, member, counts⟩, follows⟩ := inner left right split
  have precedes : ∃ c ∈ left.reverse, isCaseIgnorable c = false :=
    ⟨c, List.mem_reverse.mpr member, counts⟩
  rw [endsWord, endsWord, List.reverse_append, startsCased_append precedes,
    startsCased_append follows]

end Text

theorem TextOp.findsAlike_of_hasInnerSigmas {op : TextOp} {value pattern : List Char}
    (inner : Text.HasInnerSigmas pattern) (passed : op.holds value pattern = true) :
    op.FindsAlike value pattern := by
  obtain ⟨before, after, allowed, found⟩ := (op.holds_iff value pattern).mp passed
  exact ⟨before, after, allowed, found, inner.alike before after⟩

theorem StringComparison.fold_beq_of_caseSensitive {a b : String} (comparison : StringComparison)
    (same : (caseSensitive.fold a == caseSensitive.fold b) = true) :
    (comparison.fold a == comparison.fold b) = true := by
  obtain rfl : a = b := String.toList_inj.mp (beq_iff_eq.mp same)
  exact beq_self_eq_true _

namespace Value

theorem matchesText_eq_true_iff {op : TextOp} {value pattern : Value}
    {comparison : StringComparison} :
    matchesText op value pattern comparison = true ↔
      (∃ v p, value = string v ∧ pattern = string p ∧
        op.holds (comparison.fold v) (comparison.fold p) = true) ∨
      value = null ∧ pattern = null ∧ op = .equals := by
  constructor
  · intro passed
    cases value with
    | string v =>
        cases pattern with
        | string p => exact .inl ⟨v, p, rfl, rfl, passed⟩
        | _ => nomatch passed
    | null =>
        cases pattern with
        | null => exact .inr ⟨rfl, rfl, beq_iff_eq.mp passed⟩
        | _ => nomatch passed
    | _ => nomatch passed
  · rintro (⟨v, p, rfl, rfl, passed⟩ | ⟨rfl, rfl, rfl⟩)
    · exact passed
    · rfl

theorem matchesText_caseInsensitive_of_holds {op : TextOp} {value pattern : Value}
    (folds : ∀ v p, value = string v → pattern = string p →
      op.holds v.toList p.toList = true →
      op.holds (Text.lowercase v.toList) (Text.lowercase p.toList) = true)
    (passed : matchesText op value pattern .caseSensitive = true) :
    matchesText op value pattern .caseInsensitive = true := by
  rcases matchesText_eq_true_iff.mp passed with ⟨v, p, ofValue, ofPattern, holds⟩ | nulls
  · exact matchesText_eq_true_iff.mpr (.inl ⟨v, p, ofValue, ofPattern,
      folds v p ofValue ofPattern holds⟩)
  · exact matchesText_eq_true_iff.mpr (.inr nulls)

theorem containsText_caseInsensitive {collection item : Value}
    (found : collection.containsText item .caseSensitive = true) :
    collection.containsText item .caseInsensitive = true := by
  cases collection with
  | list items =>
      cases item with
      | null => exact found
      | string s =>
          obtain ⟨candidate, member, same⟩ := List.any_eq_true.mp found
          obtain ⟨c, isString, same⟩ := (Option.any_eq_true _ _).mp same
          have folded := StringComparison.fold_beq_of_caseSensitive .caseInsensitive same
          exact List.any_eq_true.mpr
            ⟨candidate, member, (Option.any_eq_true _ _).mpr ⟨c, isString, folded⟩⟩
      | _ => nomatch found
  | _ => nomatch found

end Value

/-- Ignoring the case widens a match, unless a capital sigma is in the way. A test for equality and
a search in a list find without the case what they find with it. A pattern that is in a value, with
what the test allows around it, is found without the case if each of its capital sigmas ends a word
in the value exactly if it does in the pattern; unless the test is for a pattern anywhere in the
value, a match with the case is one without it only then. So any match is one without the case if
each capital sigma of the pattern has characters before and after it in the pattern that are not
case-ignorable. -/
theorem ignoring_case_widens_matches :
    (∀ value pattern : Value, Value.matchesText .equals value pattern .caseSensitive = true →
      Value.matchesText .equals value pattern .caseInsensitive = true) ∧
    (∀ collection item : Value, collection.containsText item .caseSensitive = true →
      collection.containsText item .caseInsensitive = true) ∧
    (∀ (op : TextOp) (value pattern : String), op.FindsAlike value.toList pattern.toList →
      Value.matchesText op (.string value) (.string pattern) .caseInsensitive = true) ∧
    (∀ (op : TextOp) (value pattern : String), op ≠ .contains →
      Value.matchesText op (.string value) (.string pattern) .caseSensitive = true →
      (Value.matchesText op (.string value) (.string pattern) .caseInsensitive = true ↔
        op.FindsAlike value.toList pattern.toList)) ∧
    ∀ (op : TextOp) (value pattern : Value),
      (∀ text, pattern = .string text → Text.HasInnerSigmas text.toList) →
      Value.matchesText op value pattern .caseSensitive = true →
      Value.matchesText op value pattern .caseInsensitive = true := by
  refine ⟨?_, ?_, ?_, ?_, ?_⟩
  · intro value pattern passed
    refine Value.matchesText_caseInsensitive_of_holds ?_ passed
    intro v p _ _ holds
    exact StringComparison.fold_beq_of_caseSensitive .caseInsensitive holds
  · exact fun collection item => Value.containsText_caseInsensitive
  · exact fun op value pattern found => found.holds_lowercase
  · intro op value pattern placed passed
    exact ⟨TextOp.findsAlike_of_holds placed passed, TextOp.FindsAlike.holds_lowercase⟩
  · intro op value pattern inner passed
    refine Value.matchesText_caseInsensitive_of_holds ?_ passed
    intro v p _ ofPattern holds
    exact (TextOp.findsAlike_of_hasInnerSigmas (inner p ofPattern) holds).holds_lowercase

/-- The Odyssey starts with the four letters of which the last one is a sigma, but in lower case it
does not: there the last letter of the pattern is the final sigma. -/
theorem ignoring_case_narrows_some_match :
    ¬((∀ (op : TextOp) (value pattern : Value),
        Value.matchesText op value pattern .caseSensitive = true →
          Value.matchesText op value pattern .caseInsensitive = true) ∧
      ∀ collection item : Value, collection.containsText item .caseSensitive = true →
        collection.containsText item .caseInsensitive = true) := by
  rintro ⟨widens, -⟩
  have passed : Value.matchesText .startsWith (.string "ΟΔΥΣΣΕΙΑ") (.string "ΟΔΥΣ")
      .caseSensitive = true := rfl
  have rejected : Value.matchesText .startsWith (.string "ΟΔΥΣΣΕΙΑ") (.string "ΟΔΥΣ")
      .caseInsensitive = false := by decide +kernel
  exact Bool.false_ne_true (rejected.symm.trans (widens _ _ _ passed))

/-- With two letters more, the sigmas of the pattern are alike in the Odyssey and have other letters
around them. -/
theorem ignoring_case_widens_matches_odysseia :
    Value.matchesText .startsWith (.string "ΟΔΥΣΣΕΙΑ") (.string "ΟΔΥΣ") .caseSensitive = true ∧
      ¬TextOp.FindsAlike .startsWith "ΟΔΥΣΣΕΙΑ".toList "ΟΔΥΣ".toList ∧
      TextOp.FindsAlike .startsWith "ΟΔΥΣΣΕΙΑ".toList "ΟΔΥΣΣΕ".toList ∧
      Value.matchesText .startsWith (.string "ΟΔΥΣΣΕΙΑ") (.string "ΟΔΥΣΣΕ") .caseInsensitive =
        true ∧
      Text.HasInnerSigmas "ΟΔΥΣΣΕ".toList ∧
      Value.matchesText .contains (.string "ΟΔΥΣΣΕΙΑ") (.string "ΟΔΥΣΣΕ") .caseSensitive = true ∧
      Value.matchesText .contains (.string "ΟΔΥΣΣΕΙΑ") (.string "ΟΔΥΣΣΕ") .caseInsensitive =
        true ∧
      Value.matchesText .equals (.string "ΟΔΥΣ") (.string "ΟΔΥΣ") .caseInsensitive = true ∧
      (Value.list [.null, .string "ΟΔΥΣ"]).containsText (.string "ΟΔΥΣ") .caseInsensitive =
        true := by
  obtain ⟨equality, search, alike, placed, inner⟩ := ignoring_case_widens_matches
  have passed : Value.matchesText .startsWith (.string "ΟΔΥΣΣΕΙΑ") (.string "ΟΔΥΣ")
      .caseSensitive = true := rfl
  have rejected : ¬Value.matchesText .startsWith (.string "ΟΔΥΣΣΕΙΑ") (.string "ΟΔΥΣ")
      .caseInsensitive = true := by decide +kernel
  have found : TextOp.FindsAlike .startsWith "ΟΔΥΣΣΕΙΑ".toList "ΟΔΥΣΣΕ".toList :=
    ⟨[], "ΙΑ".toList, rfl, rfl, by decide +kernel⟩
  have letters : Text.isCaseIgnorable 'Υ' = false ∧ Text.isCaseIgnorable 'Σ' = false ∧
      Text.isCaseIgnorable 'Ε' = false := by decide +kernel
  have sigmas : Text.HasInnerSigmas ['Ο', 'Δ', 'Υ', 'Σ', 'Σ', 'Ε'] := by
    simp [Text.HasInnerSigmas, Text.forall_sigma_cons_iff, letters]
  have contained : Value.matchesText .contains (.string "ΟΔΥΣΣΕΙΑ") (.string "ΟΔΥΣΣΕ")
      .caseSensitive = true := rfl
  refine ⟨passed, ?_, found, alike _ _ _ found, sigmas, contained, ?_, equality _ _ rfl,
    search _ _ rfl⟩
  · exact fun found => rejected ((placed _ _ _ (by decide) passed).mpr found)
  · refine inner _ _ _ ?_ contained
    rintro text same
    obtain rfl : "ΟΔΥΣΣΕ" = text := Value.string.inj same
    exact sigmas

end RecordFilter
