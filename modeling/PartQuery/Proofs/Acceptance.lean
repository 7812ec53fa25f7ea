import PartQuery.Proofs.Compiled

/-!
# Which comparisons are accepted

A comparison is accepted, or it is refused with one of three errors, and which of these it is can be
looked up in a table (`Comparison.Judged`). The rows of the table depend on what the field holds.
For one of a few values the operator and the declared type are looked at before the operand is; for
texts, dates and numbers all operands are read first, and only then the type and the operator are
looked at. Labels and linked documents are never read.

The table leaves no case open and no two of its rows contradict each other, so it says exactly when
each error is raised (`announces_compile_leaf_iff`).
-/

namespace PartQuery

/-! ## What fields and operators take -/

/-- The operators that ask for equality, and nothing else. -/
def Operator.IsEquality (operator : Operator) : Prop :=
  operator = .equal ∨ operator = .notEqual

/-- An operator is defined for so many operands of a declared type. A range has two ends, any other
operator looks at the first operand; only dates and numbers are ordered, and only what is declared
as text is searched. -/
def Operator.IsDefinedFor (operator : Operator) (type : OperandType) (count : Nat) : Prop :=
  match operator with
  | .equal | .notEqual => 1 ≤ count
  | .between => (type = .date ∨ type = .double) ∧ count = 2
  | .less | .lessOrEqual | .greater | .greaterOrEqual => (type = .date ∨ type = .double) ∧ 1 ≤ count
  | .contains | .notContains | .beginsWith | .notBeginsWith | .endsWith | .notEndsWith =>
    type = .string ∧ 1 ≤ count

namespace ValueKind

/-- The fields that hold one of a few values. -/
def IsChoice (kind : ValueKind) : Prop :=
  kind = .status ∨ kind = .boolean ∨ kind = .lov

/-- The fields that hold a text, a date or a number. -/
def IsMeasure (kind : ValueKind) : Prop :=
  kind = .text ∨ kind = .date ∨ kind = .number

/-- The declared types that operands for a field may have. A type that is not known counts as
text. -/
def Takes (kind : ValueKind) (type : OperandType) : Prop :=
  match kind with
  | .text | .boolean | .lov => type.isPlain = true
  | .status => type.isPlain = true ∨ type = .status
  | .date => type = .date
  | .number => type = .double
  | .tags | .unchecked => True

end ValueKind

/-- A day has no next one exactly when it is the last. -/
lemma Instant.nextDay?_eq_none_iff {t : Instant} :
    t.nextDay? = none ↔ t.day = Calendar.lastDay := by
  obtain ⟨hfirst, hlast⟩ := t.day_inRange
  have hsecond := t.second_lt
  have hnano : t.nano % 1000000000 < 2000000000 := by omega
  simp only [nextDay?, of?, dite_eq_right_iff, reduceCtorEq, imp_false, not_and]
  constructor
  · intro h
    by_contra hne
    exact h ⟨by omega, by omega⟩ hsecond hnano
  · intro hday hrange
    omega

/-- An operand that is read as a date is one. -/
lemma readOperand?_of_read?_eq_date {type : OperandType} {timezone : Offset} {operand : String}
    {t : Instant} (h : type.read? timezone operand = some (.date t)) :
    Calendar.readOperand? timezone operand = some t := by
  cases type <;> simp_all [OperandType.read?]

/-! ## The table -/

/-- What comes of a comparison. -/
inductive Verdict where
  | accepted
  /-- There is no such field for these entities. -/
  | unresolved
  /-- The operator is not defined here. -/
  | unsupported
  /-- Some operand does not mean anything. -/
  | malformed
deriving DecidableEq, Repr

/-- A verdict announces what a computation on a comparison gives. Errors show the words of the
comparison. -/
def Verdict.Announces {α : Type} (c : Comparison) (verdict : Verdict)
    (result : Except QueryError α) : Prop :=
  match verdict with
  | accepted => ∃ a, result = .ok a
  | unresolved => result = .error (.unresolvedField c.field c.operator.name c.values)
  | unsupported => result = .error (.unsupportedOperator c.type.name c.operator.name c.values)
  | malformed => result = .error (.malformedOperand c.type.name c.operator.name c.values)

namespace Comparison

/-- A comparison names a field that the entities of a family have. -/
def Names (c : Comparison) (family : Family) (field : Field) : Prop :=
  Field.ofName? c.field = some field ∧ field.family = family

/-- Some operand, whichever it is, cannot be read as the declared type. Text always can. -/
def HasUnreadable (c : Comparison) (timezone : Offset) : Prop :=
  (c.type = .date ∨ c.type = .double ∨ c.type = .status) ∧
    ∃ v ∈ c.values, c.type.read? timezone v = none

/-- A comparison asks for equality with one operand, of a type that the field takes. -/
def AsksForOne (c : Comparison) (kind : ValueKind) : Prop :=
  c.values.length = 1 ∧ c.operator.IsEquality ∧ kind.Takes c.type

/-- A comparison of operands that the field takes, by an operator that is defined for them. -/
def IsDefined (c : Comparison) (kind : ValueKind) : Prop :=
  kind.Takes c.type ∧ c.operator.IsDefinedFor c.type c.values.length

/-- A comparison asks for the day that begins at its first operand, and that day does not end. -/
def LacksDay (c : Comparison) (timezone : Offset) (kind : ValueKind) : Prop :=
  kind = .date ∧ c.operator = .equal ∧ ∃ v rest start, c.values = v :: rest ∧
    Calendar.readOperand? timezone v = some start ∧ start.day = Calendar.lastDay

/-- The verdict on a comparison of a field that is found, by what the field holds. -/
inductive JudgedOf (c : Comparison) (timezone : Offset) : ValueKind → Verdict → Prop
  | unchecked : JudgedOf c timezone .unchecked .accepted
  | labels (hvalues : c.values ≠ []) (hoperator : c.operator.IsEquality) :
      JudgedOf c timezone .tags .accepted
  | labelsUnsupported (h : c.values = [] ∨ ¬c.operator.IsEquality) :
      JudgedOf c timezone .tags .unsupported
  -- One of a few values: the operand is read last.
  | choiceUnsupported {kind : ValueKind} (hkind : kind.IsChoice) (h : ¬c.AsksForOne kind) :
      JudgedOf c timezone kind .unsupported
  | choiceMalformed {kind : ValueKind} (hkind : kind.IsChoice) (hasks : c.AsksForOne kind)
      (h : ∃ v ∈ c.values, kind.operand? c.type timezone v = none) :
      JudgedOf c timezone kind .malformed
  | choice {kind : ValueKind} (hkind : kind.IsChoice) (hasks : c.AsksForOne kind)
      (h : ∀ v ∈ c.values, kind.operand? c.type timezone v ≠ none) :
      JudgedOf c timezone kind .accepted
  -- Texts, dates and numbers: all operands are read first.
  | unreadable {kind : ValueKind} (hkind : kind.IsMeasure) (h : c.HasUnreadable timezone) :
      JudgedOf c timezone kind .malformed
  | undefined {kind : ValueKind} (hkind : kind.IsMeasure) (hread : ¬c.HasUnreadable timezone)
      (h : ¬c.IsDefined kind) : JudgedOf c timezone kind .unsupported
  | endless {kind : ValueKind} (hkind : kind.IsMeasure) (hread : ¬c.HasUnreadable timezone)
      (hdefined : c.IsDefined kind) (h : c.LacksDay timezone kind) :
      JudgedOf c timezone kind .malformed
  | measure {kind : ValueKind} (hkind : kind.IsMeasure) (hread : ¬c.HasUnreadable timezone)
      (hdefined : c.IsDefined kind) (h : ¬c.LacksDay timezone kind) :
      JudgedOf c timezone kind .accepted

/-- The verdict on a comparison of entities of a family. -/
inductive Judged (c : Comparison) (ctx : CompileContext) : Verdict → Prop
  | unresolved (h : ¬∃ field, c.Names ctx.family field) : Judged c ctx .unresolved
  | ofField {field : Field} {verdict : Verdict} (hnames : c.Names ctx.family field)
      (h : c.JudgedOf ctx.timezone field.valueKind verdict) : Judged c ctx verdict

/-! ## Every comparison is judged -/

/-- Whatever a field holds, some row of the table applies. -/
lemma exists_judgedOf (c : Comparison) (timezone : Offset) (kind : ValueKind) :
    ∃ verdict, c.JudgedOf timezone kind verdict := by
  have hkinds : kind = .unchecked ∨ kind = .tags ∨ kind.IsChoice ∨ kind.IsMeasure := by
    cases kind <;> simp [ValueKind.IsChoice, ValueKind.IsMeasure]
  rcases hkinds with rfl | rfl | hchoice | hmeasure
  · exact ⟨.accepted, .unchecked⟩
  · by_cases h : c.values = [] ∨ ¬c.operator.IsEquality
    · exact ⟨.unsupported, .labelsUnsupported h⟩
    · rw [not_or, not_not] at h
      exact ⟨.accepted, .labels h.1 h.2⟩
  · by_cases hasks : c.AsksForOne kind
    · by_cases h : ∃ v ∈ c.values, kind.operand? c.type timezone v = none
      · exact ⟨.malformed, .choiceMalformed hchoice hasks h⟩
      · refine ⟨.accepted, .choice hchoice hasks ?_⟩
        intro v hv hnone
        exact h ⟨v, hv, hnone⟩
    · exact ⟨.unsupported, .choiceUnsupported hchoice hasks⟩
  · by_cases hread : c.HasUnreadable timezone
    · exact ⟨.malformed, .unreadable hmeasure hread⟩
    by_cases hdefined : c.IsDefined kind
    · by_cases h : c.LacksDay timezone kind
      · exact ⟨.malformed, .endless hmeasure hread hdefined h⟩
      · exact ⟨.accepted, .measure hmeasure hread hdefined h⟩
    · exact ⟨.unsupported, .undefined hmeasure hread hdefined⟩

/-- Some verdict is given on every comparison. -/
lemma exists_judged (c : Comparison) (ctx : CompileContext) : ∃ verdict, c.Judged ctx verdict := by
  by_cases h : ∃ field, c.Names ctx.family field
  · obtain ⟨field, hnames⟩ := h
    obtain ⟨verdict, hverdict⟩ := c.exists_judgedOf ctx.timezone field.valueKind
    exact ⟨verdict, .ofField hnames hverdict⟩
  · exact ⟨.unresolved, .unresolved h⟩

end Comparison

/-! ## Verdicts and results -/

/-- Two verdicts that announce one result are the same. -/
lemma Verdict.Announces.unique {α : Type} {c : Comparison} {verdict verdict' : Verdict}
    {result : Except QueryError α} (h : verdict.Announces c result)
    (h' : verdict'.Announces c result) : verdict = verdict' := by
  cases verdict <;> cases verdict' <;> first | rfl | simp_all [Verdict.Announces]

/-- What is made of a result does not change the verdict. -/
lemma Verdict.announces_map_iff {α β : Type} {c : Comparison} {verdict : Verdict}
    {result : Except QueryError α} {f : α → β} :
    verdict.Announces c (result.map f) ↔ verdict.Announces c result := by
  cases result <;> cases verdict <;> simp [Verdict.Announces, Except.map]

namespace Comparison

/-! ### One of a few values -/

/-- An operand is compared for equality exactly when the comparison asks for it alone. -/
lemma equalityOperand?_eq_some_iff {c : Comparison} {accepted : Bool} {v : String} :
    c.equalityOperand? accepted = some v ↔
      c.values = [v] ∧ c.operator.IsEquality ∧ accepted = true := by
  unfold equalityOperand? Operator.IsEquality
  cases c.values with
  | nil => simp
  | cons w rest => cases rest <;> simp [and_comm, eq_comm]

/-- The test of equality is made exactly when its operator asks for it. -/
lemma exists_equality?_eq_some {operator : Operator} (h : operator.IsEquality) (v : Scalar) :
    ∃ test, ValueTest.equality? operator v = some test := by
  rcases h with rfl | rfl
  · exact ⟨_, rfl⟩
  · exact ⟨_, rfl⟩

/-- A field that holds one of a few values is tested for equality. -/
lemma test_of_isChoice {field : Field} (hkind : field.valueKind.IsChoice) (c : Comparison)
    (timezone : Offset) :
    ∃ accepted, (accepted = true ↔ field.valueKind.Takes c.type) ∧
      c.test field timezone =
        c.equalityTest accepted (field.valueKind.operand? c.type timezone) := by
  unfold Comparison.test
  rcases hkind with hkind | hkind | hkind <;> rw [hkind]
  · exact ⟨c.type.isPlain || c.type == .status, by simp [ValueKind.Takes], rfl⟩
  · exact ⟨c.type.isPlain, Iff.rfl, rfl⟩
  · exact ⟨c.type.isPlain, Iff.rfl, rfl⟩

/-- What is not asked for equality with one operand that the field takes is not defined. -/
lemma equalityTest_of_not_asksForOne {c : Comparison} {kind : ValueKind} {accepted : Bool}
    {read? : String → Option Scalar} (haccepted : accepted = true ↔ kind.Takes c.type)
    (h : ¬c.AsksForOne kind) : c.equalityTest accepted read? = .error c.unsupported := by
  have hnone : c.equalityOperand? accepted = none := by
    rw [Option.eq_none_iff_forall_ne_some]
    intro v hv
    obtain ⟨hvalues, hequality, hyes⟩ := equalityOperand?_eq_some_iff.1 hv
    exact h ⟨by rw [hvalues]; rfl, hequality, haccepted.1 hyes⟩
  rw [equalityTest, hnone]

/-- What is asked for equality with one operand depends on whether that operand can be read. -/
lemma equalityTest_of_asksForOne {c : Comparison} {kind : ValueKind} {accepted : Bool}
    {read? : String → Option Scalar} (haccepted : accepted = true ↔ kind.Takes c.type)
    (h : c.AsksForOne kind) :
    ∃ v, c.values = [v] ∧ (read? v = none → c.equalityTest accepted read? = .error c.malformed) ∧
      (read? v ≠ none → ∃ test, c.equalityTest accepted read? = .ok test) := by
  obtain ⟨hlength, hequality, htakes⟩ := h
  obtain ⟨v, hvalues⟩ := List.length_eq_one_iff.1 hlength
  have hoperand : c.equalityOperand? accepted = some v :=
    equalityOperand?_eq_some_iff.2 ⟨hvalues, hequality, haccepted.2 htakes⟩
  refine ⟨v, hvalues, ?_, ?_⟩
  · intro hnone
    simp only [equalityTest, hoperand, hnone]
  · intro hsome
    obtain ⟨w, hw⟩ := Option.ne_none_iff_exists'.1 hsome
    obtain ⟨test, htest⟩ := exists_equality?_eq_some hequality w
    exact ⟨test, by simp only [equalityTest, hoperand, hw, htest]⟩

/-! ### Texts, dates and numbers -/

/-- Some operand cannot be read exactly when they are not read together. -/
lemma hasUnreadable_iff {c : Comparison} {timezone : Offset} :
    c.HasUnreadable timezone ↔ c.values.mapM (c.type.read? timezone) = none := by
  rw [mapM_eq_none_iff, HasUnreadable]
  cases c.type <;> simp [OperandType.read?]

/-- A field that holds a text, a date or a number takes the types that it accepts. -/
lemma accepts_iff_takes {kind : ValueKind} (hkind : kind.IsMeasure) {type : OperandType} :
    accepts kind type = true ↔ kind.Takes type := by
  rcases hkind with rfl | rfl | rfl <;> simp [accepts, ValueKind.Takes]

/-- A field that holds a text, a date or a number is tested with the operands read by their type. -/
lemma test_of_isMeasure {field : Field} (hkind : field.valueKind.IsMeasure) (c : Comparison)
    (timezone : Offset) : c.test field timezone = c.orderedTest field.valueKind timezone := by
  unfold Comparison.test
  rcases hkind with hkind | hkind | hkind <;> rw [hkind]

/-- The comparison of operands makes a test exactly when the operator is defined for them. -/
lemma isSome_comparison?_iff {operator : Operator} {type : OperandType} {operands : List Scalar}
    (htext : type = .string → ∀ v ∈ operands, v.kind = .text) :
    (ValueTest.comparison? operator type operands).isSome = true ↔
      operator.IsDefinedFor type operands.length := by
  by_cases hbetween : operator = .between
  · subst hbetween
    match operands with
    | [] => simp [ValueTest.comparison?, Operator.IsDefinedFor]
    | [v] => simp [ValueTest.comparison?, Operator.IsDefinedFor]
    | [low, high] => simp [ValueTest.comparison?, Operator.IsDefinedFor]
    | _ :: _ :: _ :: _ => simp [ValueTest.comparison?, Operator.IsDefinedFor]
  · cases operands with
    | nil => cases operator <;> simp_all [ValueTest.comparison?, Operator.IsDefinedFor]
    | cons v rest =>
      rw [comparison?_cons hbetween]
      by_cases hstring : type = .string
      · obtain ⟨s, rfl⟩ := Scalar.exists_text_of_kind (htext hstring v List.mem_cons_self)
        subst hstring
        cases operator <;> simp_all [ValueTest.equality?, ValueTest.like?,
          ValueTest.likeMode?, Scalar.text?, Operator.IsDefinedFor]
      · cases operator <;> simp_all [ValueTest.equality?, ValueTest.ordering?,
          Operator.IsDefinedFor]

/-- Operands that cannot all be read are refused whatever else is wrong. -/
lemma orderedTest_of_hasUnreadable {c : Comparison} {timezone : Offset}
    (h : c.HasUnreadable timezone) (kind : ValueKind) :
    c.orderedTest kind timezone = .error c.malformed := by
  have hnone : c.values.mapM (fun v => c.type.read? timezone v) = none := hasUnreadable_iff.1 h
  simp only [orderedTest, operands, hnone, bind, Except.bind]

/-- Operands that can be read are read by the declared type. -/
lemma exists_operands_eq_ok {c : Comparison} {timezone : Offset} (h : ¬c.HasUnreadable timezone) :
    ∃ found, List.Forall₂ (fun v w => c.type.read? timezone v = some w) c.values found ∧
      c.operands timezone = .ok found := by
  rw [hasUnreadable_iff] at h
  obtain ⟨found, hread⟩ := Option.ne_none_iff_exists'.1 h
  refine ⟨found, forall₂_of_mapM_eq_some hread, ?_⟩
  unfold operands
  rw [hread]

/-- Operands declared as text are read as texts. -/
lemma kind_eq_text_of_read? {type : OperandType} {timezone : Offset} {values : List String}
    {found : List Scalar}
    (hread : List.Forall₂ (fun v w => type.read? timezone v = some w) values found)
    (htype : type = .string) : ∀ v ∈ found, v.kind = .text := by
  intro w hw
  obtain ⟨v, -, hv⟩ := exists_left_of_mem_right hread hw
  rw [htype] at hv
  cases hv
  rfl

/-- Operands of a type that the field does not take, or for which the operator is not defined, are
refused. -/
lemma orderedTest_of_not_isDefined {c : Comparison} {timezone : Offset} {kind : ValueKind}
    (hkind : kind.IsMeasure) (hread : ¬c.HasUnreadable timezone) (h : ¬c.IsDefined kind) :
    c.orderedTest kind timezone = .error c.unsupported := by
  obtain ⟨found, hpairs, hfound⟩ := exists_operands_eq_ok hread
  have hlength : c.values.length = found.length := hpairs.length_eq
  simp only [orderedTest, hfound, bind, Except.bind]
  by_cases haccepts : accepts kind c.type = true
  · have hundefined : ¬c.operator.IsDefinedFor c.type found.length := by
      intro hdefined
      exact h ⟨(accepts_iff_takes hkind).1 haccepts, hlength ▸ hdefined⟩
    have hnone : ValueTest.comparison? c.operator c.type found = none := by
      rw [← Option.not_isSome_iff_eq_none, isSome_comparison?_iff (kind_eq_text_of_read? hpairs)]
      exact hundefined
    rw [if_pos haccepts]
    split
    · next start rest hoperator =>
      -- Equality is defined for whatever begins with a date.
      refine absurd ?_ hundefined
      rw [hoperator]
      exact Nat.succ_le_succ (Nat.zero_le rest.length)
    · rw [hnone]
  · rw [if_neg haccepts]

/-- A comparison that asks for a day without an end is refused. -/
lemma orderedTest_of_lacksDay {c : Comparison} {timezone : Offset} {kind : ValueKind}
    (hread : ¬c.HasUnreadable timezone) (hdefined : c.IsDefined kind)
    (h : c.LacksDay timezone kind) : c.orderedTest kind timezone = .error c.malformed := by
  obtain ⟨rfl, hoperator, v, rest, start, hvalues, hstart, hlast⟩ := h
  have htype : c.type = .date := hdefined.1
  have haccepts : accepts .date c.type = true := by
    rw [htype]
    rfl
  obtain ⟨found, hpairs, hfound⟩ := exists_operands_eq_ok hread
  rw [hvalues, htype] at hpairs
  obtain ⟨w, others, hw, -, rfl⟩ := List.forall₂_cons_left_iff.1 hpairs
  obtain rfl : .date start = w := by
    simpa [OperandType.read?, hstart] using hw
  have hnone : start.nextDay? = none := Instant.nextDay?_eq_none_iff.2 hlast
  simp only [orderedTest, hfound, bind, Except.bind, if_pos haccepts, hoperator, hnone]

/-- Every other comparison makes a test. -/
lemma exists_orderedTest_eq_ok {c : Comparison} {timezone : Offset} {kind : ValueKind}
    (hkind : kind.IsMeasure) (hread : ¬c.HasUnreadable timezone) (hdefined : c.IsDefined kind)
    (h : ¬c.LacksDay timezone kind) : ∃ test, c.orderedTest kind timezone = .ok test := by
  obtain ⟨found, hpairs, hfound⟩ := exists_operands_eq_ok hread
  have haccepts : accepts kind c.type = true := (accepts_iff_takes hkind).2 hdefined.1
  have hsome : (ValueTest.comparison? c.operator c.type found).isSome = true := by
    rw [isSome_comparison?_iff (kind_eq_text_of_read? hpairs), ← hpairs.length_eq]
    exact hdefined.2
  obtain ⟨test, htest⟩ := Option.isSome_iff_exists.1 hsome
  simp only [orderedTest, hfound, bind, Except.bind, if_pos haccepts]
  split
  · next start rest hoperator =>
    obtain ⟨v, values, hv, -, hvalues⟩ := List.forall₂_cons_right_iff.1 hpairs
    have hdate : kind = .date := (kind_eq_of_read? haccepts hv).symm
    have htype : c.type = .date := by
      have htakes := hdefined.1
      rwa [hdate] at htakes
    have hstart : Calendar.readOperand? timezone v = some start := by
      simpa [htype, OperandType.read?] using hv
    have hnext : start.nextDay? ≠ none := by
      rw [ne_eq, Instant.nextDay?_eq_none_iff]
      intro hlast
      exact h ⟨hdate, hoperator, v, values, start, hvalues, hstart, hlast⟩
    obtain ⟨stop, hstop⟩ := Option.ne_none_iff_exists'.1 hnext
    exact ⟨.dayWindow start stop, by rw [hstop]⟩
  · exact ⟨test, by rw [htest]⟩

/-! ### Verdicts -/

/-- A verdict on a field that is found announces the test that is made of it. -/
lemma JudgedOf.announces_test {c : Comparison} {timezone : Offset} {field : Field}
    {verdict : Verdict} (h : c.JudgedOf timezone field.valueKind verdict) :
    verdict.Announces c (c.test field timezone) := by
  generalize hkind : field.valueKind = kind at h
  cases h with
  | unchecked => exact ⟨.always, by simp only [Comparison.test, hkind]⟩
  | labels hvalues hoperator =>
    have hempty : c.values.isEmpty = false := by simpa using hvalues
    rcases hoperator with hoperator | hoperator
    · exact ⟨.tagsAny c.values, by simp [Comparison.test, hkind, tagTest, hempty, hoperator]⟩
    · exact ⟨.tagsNone c.values, by simp [Comparison.test, hkind, tagTest, hempty, hoperator]⟩
  | labelsUnsupported hrefused =>
    change c.test field timezone = .error c.unsupported
    simp only [Comparison.test, hkind, tagTest]
    split
    · rfl
    · next hvalues =>
      have hoperator : ¬c.operator.IsEquality := hrefused.resolve_left (by simpa using hvalues)
      split
      · next hequal => exact absurd (Or.inl hequal) hoperator
      · next hnotEqual => exact absurd (Or.inr hnotEqual) hoperator
      · rfl
  | choiceUnsupported hchoice hasks =>
    subst hkind
    obtain ⟨accepted, haccepted, htest⟩ := test_of_isChoice hchoice c timezone
    exact htest.trans (equalityTest_of_not_asksForOne haccepted hasks)
  | choiceMalformed hchoice hasks hread =>
    subst hkind
    obtain ⟨accepted, haccepted, htest⟩ := test_of_isChoice hchoice c timezone
    obtain ⟨v, hvalues, hmalformed, -⟩ := equalityTest_of_asksForOne haccepted hasks
    simp only [hvalues, List.mem_singleton, exists_eq_left] at hread
    exact htest.trans (hmalformed hread)
  | choice hchoice hasks hread =>
    subst hkind
    obtain ⟨accepted, haccepted, htest⟩ := test_of_isChoice hchoice c timezone
    obtain ⟨v, hvalues, -, hmade⟩ := equalityTest_of_asksForOne haccepted hasks
    rw [hvalues, List.forall_mem_singleton] at hread
    rw [htest]
    exact hmade hread
  | unreadable hmeasure hread =>
    subst hkind
    exact (test_of_isMeasure hmeasure c timezone).trans (orderedTest_of_hasUnreadable hread _)
  | undefined hmeasure hread hundefined =>
    subst hkind
    exact (test_of_isMeasure hmeasure c timezone).trans
      (orderedTest_of_not_isDefined hmeasure hread hundefined)
  | endless hmeasure hread hdefined hlacks =>
    subst hkind
    exact (test_of_isMeasure hmeasure c timezone).trans
      (orderedTest_of_lacksDay hread hdefined hlacks)
  | measure hmeasure hread hdefined hday =>
    subst hkind
    rw [test_of_isMeasure hmeasure]
    exact exists_orderedTest_eq_ok hmeasure hread hdefined hday

/-- A comparison of a field that is found compiles to the test that is made of it. -/
lemma compile_of_names {c : Comparison} {ctx : CompileContext} {field : Field}
    (h : c.Names ctx.family field) :
    c.compile ctx = (c.test field ctx.timezone).map (.compare field) := by
  obtain ⟨hname, hfamily⟩ := h
  unfold Comparison.compile resolveFor resolve
  rw [hname]
  simp only [bind, Except.bind, if_pos hfamily]
  cases c.test field ctx.timezone <;> rfl

/-- A comparison of a field that is not found does not compile. -/
lemma compile_of_not_names {c : Comparison} {ctx : CompileContext}
    (h : ¬∃ field, c.Names ctx.family field) : c.compile ctx = .error c.unresolved := by
  unfold Comparison.compile resolveFor resolve
  cases hname : Field.ofName? c.field with
  | none => rfl
  | some field =>
    have hfamily : field.family ≠ ctx.family := fun hfamily => h ⟨field, hname, hfamily⟩
    simp only [bind, Except.bind, if_neg hfamily]

/-- A verdict announces what the comparison compiles to. -/
lemma Judged.announces_compile {c : Comparison} {ctx : CompileContext} {verdict : Verdict}
    (h : c.Judged ctx verdict) : verdict.Announces c (c.compile ctx) := by
  cases h with
  | unresolved hnone => exact compile_of_not_names hnone
  | ofField hnames hjudged =>
    rw [compile_of_names hnames, Verdict.announces_map_iff]
    exact hjudged.announces_test

end Comparison

/-- Compiling a comparison by itself gives what a verdict announces exactly when that is the verdict
on it, and there is one verdict on every comparison. So the table says when a comparison compiles,
and when and with which of the three errors it does not, whatever it is compiled for. -/
theorem announces_compile_leaf_iff (ctx : CompileContext) (c : Comparison) :
    (∃! verdict, c.Judged ctx verdict) ∧
    ∀ verdict : Verdict,
      verdict.Announces c ((Rule.leaf c).compile ctx) ↔ c.Judged ctx verdict := by
  rw [Rule.compile]
  have hiff : ∀ verdict : Verdict, verdict.Announces c (c.compile ctx) ↔ c.Judged ctx verdict := by
    intro verdict
    refine ⟨?_, Comparison.Judged.announces_compile⟩
    intro hannounces
    obtain ⟨verdict', hjudged⟩ := c.exists_judged ctx
    rwa [hannounces.unique hjudged.announces_compile]
  refine ⟨?_, hiff⟩
  obtain ⟨verdict, hjudged⟩ := c.exists_judged ctx
  refine ⟨verdict, hjudged, ?_⟩
  intro verdict' hjudged'
  exact hjudged'.announces_compile.unique hjudged.announces_compile

/-- A status is asked for its operator before its operand is read, and a date for its operand before
its operator is looked at. -/
example : (Rule.leaf ⟨"pr.status", .less, ["soon"], .date⟩).compile ⟨.revision, Offset.zero⟩ =
      .error (.unsupportedOperator "date" "less" ["soon"]) ∧
    (Rule.leaf ⟨"pr.creationDate", .contains, ["soon"], .date⟩).compile ⟨.revision, Offset.zero⟩ =
      .error (.malformedOperand "date" "contains" ["soon"]) := by
  exact ⟨rfl, rfl⟩

end PartQuery
