import PartQuery.Proofs.Sql.Refinement

/-!
# Compiled predicates are well typed

A compiled comparison tests a field of the family it was compiled for. Its test is one that suits
the kind of values that the field holds, and it compares with values of that kind; the rows of
revisions and of path data show no other values of the field. So nothing that tests and statements
provide for other cases comes into play: no value meets one of another kind, none is asked for
labels, and no statement leaves a comparison out because it cannot tell where the field is held.

The main statement is `wellTyped_of_compile`.
-/

namespace PartQuery

/-! ## Operands -/

/-- A value compares with values of its kind: it is none of the numbers that are not numbers. -/
def Scalar.IsComparable : Scalar → Prop
  | .number x => x.isNaN = false
  | _ => True

/-- The magnitude nearest to a quotient is that of a number. -/
lemma Binary64.nearestMagnitude_le (num den : Nat) :
    nearestMagnitude num den ≤ infiniteMagnitude :=
  Nat.min_le_right _ _

/-- The magnitude nearest to a decimal is that of a number. -/
lemma Decimal.nearestMagnitude_le (d : Decimal) :
    d.nearestMagnitude ≤ Binary64.infiniteMagnitude := by
  unfold Decimal.nearestMagnitude
  split
  · exact Nat.zero_le _
  split
  · exact Nat.le_refl _
  split
  · exact Nat.zero_le _
  split <;> exact Binary64.nearestMagnitude_le _ _

/-- A number operand is a number. -/
lemma Binary64.isNaN_of_read? {operand : String} {x : Binary64} (h : read? operand = some x) :
    x.isNaN = false := by
  have hle : x.magnitude ≤ infiniteMagnitude := by
    simp only [read?] at h
    split at h
    · cases h
      exact Nat.le_refl _
    · obtain ⟨d, -, rfl⟩ := Option.map_eq_some_iff.1 h
      exact d.nearestMagnitude_le
  simpa [isNaN] using hle

/-- An operand of a declared type can be compared with. -/
lemma OperandType.isComparable_of_read? {type : OperandType} {timezone : Offset} {operand : String}
    {v : Scalar} (h : type.read? timezone operand = some v) : v.IsComparable := by
  cases type with
  | double =>
    obtain ⟨x, hx, rfl⟩ := Option.map_eq_some_iff.1 h
    exact Binary64.isNaN_of_read? hx
  | string | other =>
    cases h
    trivial
  | date | status =>
    obtain ⟨-, -, rfl⟩ := Option.map_eq_some_iff.1 h
    trivial

/-- What an operand means to a field can be compared with. -/
lemma ValueKind.isComparable_of_operand? {kind : ValueKind} {type : OperandType}
    {timezone : Offset} {operand : String} {v : Scalar}
    (h : kind.operand? type timezone operand = some v) : v.IsComparable := by
  cases kind with
  | text | date | number => exact OperandType.isComparable_of_read? h
  | status | boolean | lov =>
    obtain ⟨-, -, rfl⟩ := Option.map_eq_some_iff.1 h
    trivial
  | tags | unchecked => cases h

/-- The same time of the next day is later, also for a leap second. -/
lemma Instant.lt_of_nextDay? {start stop : Instant} (h : start.nextDay? = some stop) :
    start < stop := by
  unfold nextDay? of? at h
  split at h
  · cases h
    have hnano := start.nano_lt
    change start.rank < _
    simp only [rank]
    omega
  · cases h

/-! ## Tests that fit a kind -/

namespace ValueTest

/-- The values that a test compares with. -/
def operands : ValueTest → List Scalar
  | always | tagsAny _ | tagsNone _ => []
  | equal v | notEqual v | less v | lessOrEqual v | greater v | greaterOrEqual v => [v]
  | dayWindow start stop => [.date start, .date stop]
  | range low high => [low, high]
  | like _ needle _ => [.text needle]

/-- A test is asked of the labels of a row. -/
def IsOfLabels : ValueTest → Prop
  | tagsAny _ | tagsNone _ => True
  | _ => False

/-- A test suits a kind of values. Dates are not asked for equality but for a day, which is not
empty; only dates and numbers are asked for their order, and only texts are searched. -/
def Suits (kind : ValueKind) : ValueTest → Prop
  | always => kind = .unchecked
  | tagsAny labels | tagsNone labels => kind = .tags ∧ labels ≠ []
  | equal _ => kind ≠ .date
  | notEqual _ => True
  | dayWindow start stop => kind = .date ∧ start < stop
  | range _ _ | less _ | lessOrEqual _ | greater _ | greaterOrEqual _ => kind.IsOrdered
  | like _ _ _ => kind = .text

/-- A test fits what a field holds: it suits the kind, and it compares with values of the kind that
can be compared with. -/
structure Fits (test : ValueTest) (kind : ValueKind) : Prop where
  suits : test.Suits kind
  kinds : ∀ v ∈ test.operands, v.kind = kind
  comparable : ∀ v ∈ test.operands, v.IsComparable

/-- A test that compares with nothing fits what it suits. -/
lemma fits_of_operands_eq_nil {test : ValueTest} {kind : ValueKind} (hoperands : test.operands = [])
    (hsuits : test.Suits kind) : test.Fits kind := by
  refine ⟨hsuits, ?_, ?_⟩
  all_goals
    rw [hoperands]
    simp

/-- A test that compares with one value fits what it suits, if the value is of that kind. -/
lemma fits_of_operands_eq_singleton {test : ValueTest} {kind : ValueKind} {v : Scalar}
    (hoperands : test.operands = [v]) (hsuits : test.Suits kind) (hkind : v.kind = kind)
    (hcomparable : v.IsComparable) : test.Fits kind := by
  refine ⟨hsuits, ?_, ?_⟩
  all_goals
    rw [hoperands, List.forall_mem_singleton]
    assumption

/-- A test that fits the kind of a value is asked of values. -/
lemma Fits.isOfValues {test : ValueTest} {v : Scalar} (h : test.Fits v.kind) : test.IsOfValues := by
  have hsuits := h.suits
  cases test with
  | always => cases v <;> cases hsuits
  | tagsAny labels | tagsNone labels => cases v <;> cases hsuits.1
  | _ => trivial

/-- A test of values fits kinds of values only. -/
lemma Fits.isValue {test : ValueTest} {kind : ValueKind} (h : test.Fits kind)
    (htest : test.IsOfValues) : kind ≠ .unchecked ∧ kind ≠ .tags := by
  obtain ⟨v, hv⟩ : ∃ v, v ∈ test.operands := by
    cases test <;> first | exact htest.elim | exact ⟨_, List.mem_cons_self⟩
  rw [← h.kinds v hv]
  cases v <;> simp [Scalar.kind]

/-- Only a field that is not looked at is asked for nothing. -/
lemma Fits.eq_always_iff {test : ValueTest} {kind : ValueKind} (h : test.Fits kind) :
    test = .always ↔ kind = .unchecked := by
  constructor
  · rintro rfl
    exact h.suits
  · rintro rfl
    have hvalues : ¬test.IsOfValues := fun htest => (h.isValue htest).1 rfl
    have hsuits := h.suits
    cases test <;> first | rfl | exact absurd trivial hvalues | cases hsuits.1

/-- Only a field that holds labels is asked for labels. -/
lemma Fits.isOfLabels_iff {test : ValueTest} {kind : ValueKind} (h : test.Fits kind) :
    test.IsOfLabels ↔ kind = .tags := by
  constructor
  · intro hlabels
    have hsuits := h.suits
    cases test <;> first | exact hlabels.elim | exact hsuits.1
  · rintro rfl
    have hvalues : ¬test.IsOfValues := fun htest => (h.isValue htest).2 rfl
    have hsuits := h.suits
    cases test with
    | always => cases hsuits
    | tagsAny labels | tagsNone labels => trivial
    | _ => exact absurd trivial hvalues

end ValueTest

/-- The test that an operator makes of operands of one kind fits that kind. -/
lemma Operator.Makes.fits {operator : Operator} {operands : List Scalar} {test : ValueTest}
    {kind : ValueKind} (h : operator.Makes operands test) (hkinds : ∀ v ∈ operands, v.kind = kind)
    (hcomparable : ∀ v ∈ operands, v.IsComparable) : test.Fits kind := by
  cases h with
  | @day start stop rest hstop =>
    obtain rfl : ValueKind.date = kind := hkinds _ List.mem_cons_self
    refine ⟨⟨rfl, Instant.lt_of_nextDay? hstop⟩, ?_, ?_⟩ <;>
      simp [ValueTest.operands, Scalar.kind, Scalar.IsComparable]
  | @equal v rest hdate =>
    have hv : v.kind = kind := hkinds v List.mem_cons_self
    have hc : v.IsComparable := hcomparable v List.mem_cons_self
    exact ValueTest.fits_of_operands_eq_singleton rfl (hv ▸ hdate) hv hc
  | @notEqual v rest =>
    have hv : v.kind = kind := hkinds v List.mem_cons_self
    have hc : v.IsComparable := hcomparable v List.mem_cons_self
    exact ValueTest.fits_of_operands_eq_singleton rfl trivial hv hc
  | @range low high hordered =>
    have hlow : low.kind = kind := hkinds low List.mem_cons_self
    exact ⟨hlow ▸ hordered, hkinds, hcomparable⟩
  | @ordering operator v rest test hordered htest =>
    have hv : v.kind = kind := hkinds v List.mem_cons_self
    have hc : v.IsComparable := hcomparable v List.mem_cons_self
    have hsuits : kind.IsOrdered := hv ▸ hordered
    cases operator <;> simp only [ValueTest.ordering?, reduceCtorEq, Option.some.injEq] at htest
    all_goals
      subst htest
      exact ValueTest.fits_of_operands_eq_singleton rfl hsuits hv hc
  | @like operator mode negated s rest hmode =>
    have htext : ValueKind.text = kind := hkinds _ List.mem_cons_self
    exact ValueTest.fits_of_operands_eq_singleton rfl htext.symm htext trivial

/-- The test that a comparison makes of a field fits the kind of the field. -/
lemma Comparison.Tested.fits {c : Comparison} {timezone : Offset} {kind : ValueKind}
    {test : ValueTest} (h : c.Tested timezone kind test) : test.Fits kind := by
  cases h with
  | unchecked => exact ValueTest.fits_of_operands_eq_nil rfl rfl
  | tagsAny hoperator hvalues => exact ValueTest.fits_of_operands_eq_nil rfl ⟨rfl, hvalues⟩
  | tagsNone hoperator hvalues => exact ValueTest.fits_of_operands_eq_nil rfl ⟨rfl, hvalues⟩
  | value hread hkinds hmakes =>
    refine hmakes.fits hkinds ?_
    exact forall_mem_of_mapM_eq_some hread fun _ _ => ValueKind.isComparable_of_operand?

/-! ## Values that rows show -/

namespace Row

/-- A row shows a value to the tests of a field. Of an attribute that is the value of each one with
the name and the kind. -/
def Shows (row : Row) (field : Field) (v : Scalar) : Prop :=
  match field with
  | .dynamic owner kind name => ∃ attributes ∈ row.attributes? owner,
      ∃ a ∈ attributes, a.name = name ∧ a.value.scalarOf? kind = some v
  | field => row.value? field = some v

/-- A row is that of a revision or of path data, with one iteration. -/
inductive IsOfEntity : Row → Prop
  | revision (r : Revision) (i : Iteration) : IsOfEntity (i.row r)
  | pathData (d : PathData) (i : PathIteration) : IsOfEntity (i.row d)

/-- The values that the row of an entity shows for a field are of the kind that the field holds. -/
lemma IsOfEntity.kind_of_shows {row : Row} (hrow : row.IsOfEntity) {field : Field} {v : Scalar}
    (h : row.Shows field v) : v.kind = field.valueKind := by
  by_cases hdynamic : ∃ owner kind name, field = .dynamic owner kind name
  · obtain ⟨owner, kind, name, rfl⟩ := hdynamic
    obtain ⟨attributes, -, a, -, -, hvalue⟩ := h
    obtain ⟨rfl, hscalar⟩ := Option.ite_none_right_eq_some.1 hvalue
    exact Sql.kind_of_mem_scalar? v hscalar
  · have hvalue : row.value? field = some v := by
      cases field with
      | dynamic owner kind name => exact absurd ⟨owner, kind, name, rfl⟩ hdynamic
      | _ => exact h
    cases hrow with
    | revision r i => exact Sql.kind_of_value?_row v hvalue
    | pathData d i => cases hvalue

/-- A test of values holds of a row exactly when one of the values shown for the field passes. -/
lemma compares_iff_shows {row : Row} {field : Field} {test : ValueTest} (htest : test.IsOfValues) :
    Predicate.compares row field test = true ↔
      (!field.isLastIterationOnly || row.isLast) = true ∧
        ∃ v, row.Shows field v ∧ test.passes v = true := by
  by_cases hdynamic : ∃ owner kind name, field = .dynamic owner kind name
  · obtain ⟨owner, kind, name, rfl⟩ := hdynamic
    rw [Predicate.compares_dynamic htest]
    simp only [Option.any_eq_true, hasAttribute_iff, Shows, Field.isLastIterationOnly,
      Bool.not_false, Bool.true_or, true_and]
    constructor
    · rintro ⟨attributes, hattributes, a, ha, hname, v, hvalue, hv⟩
      exact ⟨v, ⟨attributes, hattributes, a, ha, hname, hvalue⟩, hv⟩
    · rintro ⟨v, ⟨attributes, hattributes, a, ha, hname, hvalue⟩, hv⟩
      exact ⟨attributes, hattributes, a, ha, hname, v, hvalue, hv⟩
  · have hfield : ∀ owner kind name, field ≠ .dynamic owner kind name :=
      fun owner kind name h => hdynamic ⟨owner, kind, name, h⟩
    rw [Predicate.compares_of_not_dynamic htest hfield, Bool.and_eq_true, Option.any_eq_true]
    cases field with
    | dynamic owner kind name => exact absurd rfl (hfield owner kind name)
    | _ => rfl

end Row

/-! ## Conditions in statements -/

namespace Sql

/-- A field that holds values is an attribute or held in a column. -/
lemma dynamic_or_exists_column {field : Field}
    (hvalue : field.valueKind ≠ .unchecked ∧ field.valueKind ≠ .tags) :
    (∃ owner kind name, field = .dynamic owner kind name) ∨
      ∃ column, column? field = some column := by
  cases hfamily : field.family with
  | revision =>
    refine (exists_column_or_dynamic hfamily hvalue).imp_left ?_
    rintro ⟨kind, name, rfl⟩
    exact ⟨_, kind, name, rfl⟩
  | pathData =>
    cases field with
    | dynamic owner kind name => exact Or.inl ⟨owner, kind, name, rfl⟩
    | _ => cases hfamily

/-- The condition of a test of values is no constant. -/
lemma testCondition_ne_constant {test : ValueTest} (htest : test.IsOfValues) (column : Column)
    (b : Bool) : testCondition column test ≠ .constant b := by
  cases test <;> first | exact htest.elim | simp [testCondition]

/-- A comparison that asks for something becomes no constant. -/
lemma draftComparison_ne_constant {config : Config} {field : Field} {test : ValueTest}
    (halways : test ≠ .always)
    (hheld : test.IsOfValues → (∃ owner kind name, field = .dynamic owner kind name) ∨
      ∃ column, column? field = some column) (s : Draft) (b : Bool) :
    ((draftComparison config field test).run s).1 ≠ .constant b := by
  by_cases htest : test.IsOfValues
  · rcases hheld htest with ⟨owner, kind, name, rfl⟩ | ⟨column, hcolumn⟩
    · rw [draftComparison_dynamic htest]
      exact Condition.noConfusion
    · rw [draftComparison_of_column htest hcolumn]
      split
      · exact Condition.noConfusion
      · exact testCondition_ne_constant htest column b
  · cases test with
    | always => exact absurd rfl halways
    | tagsAny labels | tagsNone labels => exact Condition.noConfusion
    | _ => exact absurd trivial htest

end Sql

/-! ## Compiled predicates -/

/-- A comparison of entities of a family is well typed: the field is one of theirs, and the test
fits what it holds. Nothing is asked of linked documents alone, and labels are asked of tags alone.
-/
structure WellTyped (family : Family) (field : Field) (test : ValueTest) : Prop where
  family_eq : field.family = family
  fits : test.Fits field.valueKind
  eq_always_iff : test = .always ↔ field = .revision .linkedDocuments
  isOfLabels_iff : test.IsOfLabels ↔ field = .revision .tags

/-- A comparison stays clear of whatever is provided for other comparisons. A test of values is
asked of the values that the row shows, no other test is asked of any, and they are of the kind of
the operands. In a statement the field is found, and only what asks for nothing becomes a constant.
-/
structure NeverFallsBack (field : Field) (test : ValueTest) : Prop where
  asked : ∀ row : Row, test.IsOfValues → (Predicate.compares row field test = true ↔
    (!field.isLastIterationOnly || row.isLast) = true ∧
      ∃ v, row.Shows field v ∧ test.passes v = true)
  shown : ∀ row : Row, row.IsOfEntity → ∀ v : Scalar, row.Shows field v →
    test.IsOfValues ∧ v.kind = field.valueKind ∧ ∀ w ∈ test.operands, v.kind = w.kind
  held : test.IsOfValues → (∃ owner kind name, field = .dynamic owner kind name) ∨
    ∃ column, Sql.column? field = some column
  tested : test.IsOfValues → ∀ column b, Sql.testCondition column test ≠ .constant b
  drafted : ∀ config s b, ((Sql.draftComparison config field test).run s).1 = .constant b ↔
    test = .always ∧ b = true

/-- Linked documents are the field that is not looked at. -/
lemma Field.valueKind_eq_unchecked_iff {field : Field} :
    field.valueKind = .unchecked ↔ field = .revision .linkedDocuments :=
  ⟨Field.eq_of_valueKind_unchecked, fun h => h ▸ rfl⟩

/-- Tags are the field that holds labels. -/
lemma Field.valueKind_eq_tags_iff {field : Field} :
    field.valueKind = .tags ↔ field = .revision .tags :=
  ⟨Field.eq_of_valueKind_tags, fun h => h ▸ rfl⟩

/-- A comparison whose test fits its field never falls back. -/
lemma ValueTest.Fits.neverFallsBack {field : Field} {test : ValueTest}
    (h : test.Fits field.valueKind) : NeverFallsBack field test where
  asked _ htest := Row.compares_iff_shows htest
  shown row hrow v hv := by
    have hkind : v.kind = field.valueKind := hrow.kind_of_shows hv
    refine ⟨Fits.isOfValues (hkind ▸ h), hkind, ?_⟩
    intro w hw
    exact hkind.trans (h.kinds w hw).symm
  held htest := Sql.dynamic_or_exists_column (h.isValue htest)
  tested htest := Sql.testCondition_ne_constant htest
  drafted config s b := by
    constructor
    · intro hconstant
      obtain rfl : test = .always := by
        by_contra halways
        refine Sql.draftComparison_ne_constant halways ?_ s b hconstant
        exact fun htest => Sql.dynamic_or_exists_column (h.isValue htest)
      cases hconstant
      exact ⟨rfl, rfl⟩
    · rintro ⟨rfl, rfl⟩
      rfl

/-- Everywhere in the predicate of a rule, whatever the entities it was compiled for, comparisons
are well typed and never fall back. -/
theorem wellTyped_of_compile {ctx : CompileContext} {rule : Rule} {p : Predicate}
    (h : rule.compile ctx = .ok p) :
    p.Everywhere fun field test => WellTyped ctx.family field test ∧ NeverFallsBack field test := by
  refine Rule.everywhere_of_compile ?_ h
  intro c field test hfamily htest
  have hfits : test.Fits field.valueKind := htest.fits
  refine ⟨⟨hfamily, hfits, ?_, ?_⟩, hfits.neverFallsBack⟩
  · rw [hfits.eq_always_iff, Field.valueKind_eq_unchecked_iff]
  · rw [hfits.isOfLabels_iff, Field.valueKind_eq_tags_iff]

/-- A rule for path data that weighs between one and two, or is not red. -/
def gaugeRule : Rule :=
  .group .or [.leaf ⟨"pd-attr-NUMBER.weight", .between, ["1", "2"], .double⟩,
    .leaf ⟨"pd-attr-TEXT.colour", .notContains, ["RED"], .string⟩]

/-- Its comparisons are well typed and never fall back. -/
theorem gaugeRule_wellTyped :
    ∃ p, gaugeRule.compile ⟨.pathData, Offset.zero⟩ = .ok p ∧
      p.Everywhere fun field test =>
        WellTyped .pathData field test ∧ NeverFallsBack field test := by
  have hcompiles : (gaugeRule.compile ⟨.pathData, Offset.zero⟩).isOk = true := by
    decide +kernel
  cases hp : gaugeRule.compile ⟨.pathData, Offset.zero⟩ with
  | error e =>
    rw [hp] at hcompiles
    cases hcompiles
  | ok p => exact ⟨p, rfl, wellTyped_of_compile hp⟩

end PartQuery
