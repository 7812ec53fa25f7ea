import PartQuery.Predicate.Compile
import PartQuery.Proofs.Forms

/-!
# What rules compile to

Compiling either fails or leaves nothing open: this module says once what it can give. A comparison
becomes the test of one field of the right family, and `Comparison.Tested` lists the tests there
are, with the kind of the operands that stand in them. Groups are compiled child by child
(`Rule.compileAll_eq_ok_iff`), so whatever holds of the comparisons of a rule once they are compiled
holds everywhere in the compiled rule (`Rule.everywhere_of_leaves`).

Later modules reason from these statements and do not open the compiler again.
-/

namespace PartQuery

/-! ## Values and their kinds -/

/-- The kind of field that holds such a value. -/
def Scalar.kind : Scalar → ValueKind
  | .text _ => .text
  | .date _ => .date
  | .number _ => .number
  | .boolean _ => .boolean
  | .lov _ => .lov
  | .status _ => .status

/-- A value of the kind of dates is a date. -/
lemma Scalar.exists_date_of_kind {v : Scalar} (h : v.kind = .date) : ∃ t, v = .date t := by
  cases v <;> first | exact ⟨_, rfl⟩ | cases h

/-- A value of the kind of texts is a text. -/
lemma Scalar.exists_text_of_kind {v : Scalar} (h : v.kind = .text) : ∃ s, v = .text s := by
  cases v <;> first | exact ⟨_, rfl⟩ | cases h

/-- The kinds whose values have an order that rules can ask for. -/
def ValueKind.IsOrdered (kind : ValueKind) : Prop :=
  kind = .date ∨ kind = .number

/-- What an operand means to a field of some kind: it is read by its declared type if the field
holds a text, a date or a number, and as a value of the field if that is one of a few. -/
def ValueKind.operand? (kind : ValueKind) (type : OperandType) (timezone : Offset)
    (operand : String) : Option Scalar :=
  match kind with
  | .text | .date | .number => type.read? timezone operand
  | .status => (Status.ofName? operand).map .status
  | .boolean => (Comparison.readBoolean? operand).map .boolean
  | .lov => (Comparison.readIndex? operand).map .lov
  | .tags | .unchecked => none

/-- Operands of an accepted type are values of the kind that the field holds. -/
lemma kind_eq_of_read? {kind : ValueKind} {type : OperandType} {timezone : Offset}
    {operand : String} {v : Scalar} (haccepts : Comparison.accepts kind type = true)
    (hread : type.read? timezone operand = some v) : v.kind = kind := by
  cases kind with
  | text =>
    cases type <;> simp_all [Comparison.accepts, OperandType.isPlain, OperandType.read?]
    all_goals rw [← hread]; rfl
  | date =>
    obtain rfl : type = .date := by simpa [Comparison.accepts] using haccepts
    obtain ⟨t, -, rfl⟩ := Option.map_eq_some_iff.1 hread
    rfl
  | number =>
    obtain rfl : type = .double := by simpa [Comparison.accepts] using haccepts
    obtain ⟨x, -, rfl⟩ := Option.map_eq_some_iff.1 hread
    rfl
  | _ => cases haccepts

/-! ## The tests that operators make of operands -/

/-- The test that an operator makes of its operands: the first one, or both ends of a range. -/
inductive Operator.Makes : Operator → List Scalar → ValueTest → Prop
  | day {start stop : Instant} {rest : List Scalar} (hstop : start.nextDay? = some stop) :
      Makes .equal (.date start :: rest) (.dayWindow start stop)
  | equal {v : Scalar} {rest : List Scalar} (hkind : v.kind ≠ .date) :
      Makes .equal (v :: rest) (.equal v)
  | notEqual {v : Scalar} {rest : List Scalar} : Makes .notEqual (v :: rest) (.notEqual v)
  | range {low high : Scalar} (hkind : low.kind.IsOrdered) :
      Makes .between [low, high] (.range low high)
  | ordering {operator : Operator} {v : Scalar} {rest : List Scalar} {test : ValueTest}
      (hkind : v.kind.IsOrdered) (htest : ValueTest.ordering? operator v = some test) :
      Makes operator (v :: rest) test
  | like {operator : Operator} {mode : LikeMode} {negated : Bool} {s : String}
      {rest : List Scalar} (hmode : ValueTest.likeMode? operator = some (mode, negated)) :
      Makes operator (.text s :: rest) (.like mode (Text.lower s) negated)

/-- A test is asked of values, and not of labels or of nothing. -/
def ValueTest.IsOfValues : ValueTest → Prop
  | .always | .tagsAny _ | .tagsNone _ => False
  | _ => True

/-- Operators make tests of values. -/
lemma Operator.Makes.isOfValues {operator : Operator} {operands : List Scalar} {test : ValueTest}
    (h : operator.Makes operands test) : test.IsOfValues := by
  cases h with
  | ordering hkind htest =>
    cases operator <;> simp only [ValueTest.ordering?, reduceCtorEq, Option.some.injEq] at htest
    all_goals rw [← htest]; trivial
  | _ => trivial

/-- Equality makes the test of equality, except for dates. -/
lemma makes_of_equality? {operator : Operator} {v : Scalar} {rest : List Scalar}
    {test : ValueTest} (hday : operator = .equal → v.kind ≠ .date)
    (h : ValueTest.equality? operator v = some test) : operator.Makes (v :: rest) test := by
  cases operator <;> simp only [ValueTest.equality?, Option.some.injEq, reduceCtorEq] at h
  · rw [← h]
    exact .equal (hday rfl)
  · rw [← h]
    exact .notEqual

/-- A text operator looks for its operand in lower case. -/
lemma makes_of_like? {operator : Operator} {v : Scalar} {rest : List Scalar} {test : ValueTest}
    (h : ValueTest.like? operator v = some test) : operator.Makes (v :: rest) test := by
  unfold ValueTest.like? at h
  cases hmode : ValueTest.likeMode? operator with
  | none => simp [hmode] at h
  | some found =>
    obtain ⟨mode, negated⟩ := found
    cases v <;> simp_all [Scalar.text?]
    rw [← h]
    exact .like hmode

/-- An operator that is not `between` makes its test of the first operand. -/
lemma comparison?_cons {operator : Operator} (hbetween : operator ≠ .between) (type : OperandType)
    (first : Scalar) (rest : List Scalar) :
    ValueTest.comparison? operator type (first :: rest) =
      (ValueTest.equality? operator first).or
        ((if type = .date ∨ type = .double then ValueTest.ordering? operator first else none).or
          (if type = .string then ValueTest.like? operator first else none)) := by
  cases operator <;> first | rfl | exact absurd rfl hbetween

/-- Types that are ordered are accepted by fields of ordered kinds only. -/
lemma isOrdered_of_accepts {kind : ValueKind} {type : OperandType}
    (haccepts : Comparison.accepts kind type = true) (htype : type = .date ∨ type = .double) :
    kind.IsOrdered := by
  rcases htype with rfl | rfl <;> cases kind <;>
    simp_all [Comparison.accepts, OperandType.isPlain, ValueKind.IsOrdered]

/-- The comparison of accepted operands makes one of the tests above. -/
lemma makes_of_comparison? {operator : Operator} {kind : ValueKind} {type : OperandType}
    {operands : List Scalar} {test : ValueTest}
    (haccepts : Comparison.accepts kind type = true) (hkinds : ∀ v ∈ operands, v.kind = kind)
    (hday : operator = .equal → kind ≠ .date)
    (h : ValueTest.comparison? operator type operands = some test) :
    operator.Makes operands test := by
  by_cases hbetween : operator = .between
  · subst hbetween
    match operands, hkinds, h with
    | [low, high], hkinds, h =>
      simp only [ValueTest.comparison?, Option.ite_none_right_eq_some, Option.some.injEq] at h
      obtain ⟨htype, rfl⟩ := h
      refine .range ?_
      rw [hkinds low (by simp)]
      exact isOrdered_of_accepts haccepts htype
    | [], _, h => cases h
    | [_], _, h => cases h
    | _ :: _ :: _ :: _, _, h => cases h
  · cases operands with
    | nil => cases operator <;> cases h
    | cons first rest =>
      have hfirst : first.kind = kind := hkinds first (by simp)
      rw [comparison?_cons hbetween] at h
      rcases Option.or_eq_some_iff.1 h with hequality | ⟨-, hother⟩
      · exact makes_of_equality? (hfirst ▸ hday) hequality
      · rcases Option.or_eq_some_iff.1 hother with hordering | ⟨-, hlike⟩
        · obtain ⟨htype, hordering⟩ := Option.ite_none_right_eq_some.1 hordering
          exact .ordering (hfirst ▸ isOrdered_of_accepts haccepts htype) hordering
        · obtain ⟨-, hlike⟩ := Option.ite_none_right_eq_some.1 hlike
          exact makes_of_like? hlike

/-! ## The tests of a comparison -/

/-- The test that a comparison makes of a field of some kind. -/
inductive Comparison.Tested (c : Comparison) (timezone : Offset) : ValueKind → ValueTest → Prop
  | unchecked : Tested c timezone .unchecked .always
  | tagsAny (hoperator : c.operator = .equal) (hvalues : c.values ≠ []) :
      Tested c timezone .tags (.tagsAny c.values)
  | tagsNone (hoperator : c.operator = .notEqual) (hvalues : c.values ≠ []) :
      Tested c timezone .tags (.tagsNone c.values)
  | value {kind : ValueKind} {operands : List Scalar} {test : ValueTest}
      (hread : c.values.mapM (kind.operand? c.type timezone) = some operands)
      (hkinds : ∀ v ∈ operands, v.kind = kind) (hmakes : c.operator.Makes operands test) :
      Tested c timezone kind test

namespace Comparison

/-- A field that holds one of a few values is asked for equality with the only operand. -/
lemma tested_of_equalityTest {c : Comparison} {timezone : Offset} {kind : ValueKind}
    {accepted : Bool} {test : ValueTest} (hdate : kind ≠ .date)
    (hkind : ∀ s v, kind.operand? c.type timezone s = some v → v.kind = kind)
    (h : c.equalityTest accepted (kind.operand? c.type timezone) = .ok test) :
    c.Tested timezone kind test := by
  unfold equalityTest equalityOperand? at h
  split at h
  · cases h
  · next operand hoperand =>
    split at hoperand
    · next raw hvalues =>
      split at hoperand
      · cases hoperand
        split at h
        · cases h
        · next v hv =>
          have hv' : v.kind = kind := hkind _ v hv
          split at h
          · next hmade =>
            cases h
            have hread : c.values.mapM (kind.operand? c.type timezone) = some [v] := by
              simp [hvalues, hv]
            have hkinds : ∀ w ∈ [v], w.kind = kind := by simpa using hv'
            exact .value hread hkinds (makes_of_equality? (fun _ => hv' ▸ hdate) hmade)
          · cases h
      · cases hoperand
    · cases hoperand

/-- Operands that do not begin with a date are no dates. -/
lemma ne_date_of_not_day {kind : ValueKind} {operands : List Scalar}
    (hkinds : ∀ v ∈ operands, v.kind = kind) (hne : operands ≠ [])
    (hnot : ∀ start rest, operands ≠ .date start :: rest) : kind ≠ .date := by
  rintro rfl
  cases operands with
  | nil => exact hne rfl
  | cons v rest =>
    obtain ⟨start, rfl⟩ := Scalar.exists_date_of_kind (hkinds v List.mem_cons_self)
    exact hnot start rest rfl

/-- A test made from operands that were read by their type is one of the kind that they are read
as. -/
lemma tested_of_orderedTest {c : Comparison} {timezone : Offset} {kind : ValueKind}
    {test : ValueTest} (hread : kind.operand? c.type timezone = c.type.read? timezone)
    (h : c.orderedTest kind timezone = .ok test) : c.Tested timezone kind test := by
  unfold orderedTest operands at h
  cases hmap : c.values.mapM (c.type.read? timezone) with
  | none => simp [hmap, bind, Except.bind] at h
  | some found =>
    simp only [hmap, bind, Except.bind] at h
    split at h
    · next haccepts =>
      have hkinds : ∀ v ∈ found, v.kind = kind :=
        forall_mem_of_mapM_eq_some hmap fun _ _ => kind_eq_of_read? haccepts
      refine .value (hread ▸ hmap) hkinds ?_
      split at h
      · next start rest hoperator =>
        split at h
        · next stop hstop =>
          cases h
          rw [hoperator]
          exact .day hstop
        · cases h
      · next hnot =>
        split at h
        · next hmade =>
          cases h
          refine makes_of_comparison? haccepts hkinds ?_ hmade
          intro hequal
          -- Equality with a date has become the test of a day before.
          refine ne_date_of_not_day hkinds ?_ fun start rest => hnot start rest hequal
          intro hnil
          rw [hnil, hequal] at hmade
          cases hmade
        · cases h
    · cases h

/-- Every test of a field is one of those that `Tested` lists for its kind. -/
lemma tested_of_test {c : Comparison} {field : Field} {timezone : Offset} {test : ValueTest}
    (h : c.test field timezone = .ok test) : c.Tested timezone field.valueKind test := by
  unfold Comparison.test at h
  cases hkind : field.valueKind with
  | unchecked =>
    simp only [hkind] at h
    cases h
    exact .unchecked
  | tags =>
    simp only [hkind, tagTest] at h
    split at h
    · cases h
    · next hvalues =>
      have hvalues : c.values ≠ [] := by simpa using hvalues
      split at h
      · next hoperator => cases h; exact .tagsAny hoperator hvalues
      · next hoperator => cases h; exact .tagsNone hoperator hvalues
      · cases h
  | status =>
    simp only [hkind] at h
    refine tested_of_equalityTest (by simp) ?_ h
    simp only [ValueKind.operand?, Option.map_eq_some_iff]
    rintro s v ⟨status, -, rfl⟩
    rfl
  | boolean =>
    simp only [hkind] at h
    refine tested_of_equalityTest (by simp) ?_ h
    simp only [ValueKind.operand?, Option.map_eq_some_iff]
    rintro s v ⟨b, -, rfl⟩
    rfl
  | lov =>
    simp only [hkind] at h
    refine tested_of_equalityTest (by simp) ?_ h
    simp only [ValueKind.operand?, Option.map_eq_some_iff]
    rintro s v ⟨index, -, rfl⟩
    rfl
  | text => exact tested_of_orderedTest rfl (by simpa only [hkind] using h)
  | date => exact tested_of_orderedTest rfl (by simpa only [hkind] using h)
  | number => exact tested_of_orderedTest rfl (by simpa only [hkind] using h)

/-- A comparison compiles to the test of the field it names, if that is a field of the family. -/
lemma compile_eq_ok_iff {ctx : CompileContext} {c : Comparison} {p : Predicate} :
    c.compile ctx = .ok p ↔ ∃ field test, Field.ofName? c.field = some field ∧
      field.family = ctx.family ∧ c.test field ctx.timezone = .ok test ∧
      p = .compare field test := by
  unfold Comparison.compile resolveFor resolve
  cases hfield : Field.ofName? c.field with
  | none => simp [bind, Except.bind]
  | some field =>
    by_cases hfamily : field.family = ctx.family
    · cases htest : c.test field ctx.timezone with
      | error e => simp [bind, Except.bind, hfamily, htest]
      | ok test => simp [bind, Except.bind, pure, Except.pure, hfamily, htest, eq_comm]
    · simp [bind, Except.bind, hfamily]

end Comparison

/-! ## Asking a row -/

/-- Some attribute passes a test exactly when one of that name has a value of that kind that
does. -/
lemma hasAttribute_iff {attributes : List Attribute} {kind : AttributeKind} {name : String}
    {test : Scalar → Bool} :
    hasAttribute attributes kind name test = true ↔
      ∃ a ∈ attributes, a.name = name ∧ (a.value.scalarOf? kind).any test = true := by
  simp only [hasAttribute, List.any_eq_true, List.mem_filterMap, List.mem_filter, beq_iff_eq,
    Option.any_eq_true]
  constructor
  · rintro ⟨v, ⟨a, ⟨ha, hname⟩, hvalue⟩, hv⟩
    exact ⟨a, ha, hname, v, hvalue, hv⟩
  · rintro ⟨a, ha, hname, v, hvalue, hv⟩
    exact ⟨v, ⟨a, ⟨ha, hname⟩, hvalue⟩, hv⟩

namespace Predicate

/-- A test of an attribute passes if one of the attributes of that kind and name has a value that
passes. -/
lemma compares_dynamic {row : Row} {owner : Family} {kind : AttributeKind} {name : String}
    {test : ValueTest} (htest : test.IsOfValues) :
    compares row (.dynamic owner kind name) test =
      (row.attributes? owner).any (hasAttribute · kind name test.passes) := by
  cases test <;> first | rfl | exact htest.elim

/-- A test of any other field passes if its value does. -/
lemma compares_of_not_dynamic {row : Row} {field : Field} {test : ValueTest}
    (htest : test.IsOfValues) (hfield : ∀ owner kind name, field ≠ .dynamic owner kind name) :
    compares row field test =
      ((!field.isLastIterationOnly || row.isLast) && (row.value? field).any test.passes) := by
  cases field with
  | dynamic owner kind name => exact absurd rfl (hfield owner kind name)
  | _ => cases test <;> first | rfl | exact htest.elim

end Predicate

/-! ## Groups -/

namespace Rule

/-- Compiling rules is a traversal. -/
lemma compileAll_eq_mapM (ctx : CompileContext) (rules : List Rule) :
    compileAll ctx rules = rules.mapM (compile ctx) := by
  induction rules with
  | nil => rw [compileAll, List.mapM_nil]; rfl
  | cons rule rest ih => rw [compileAll, List.mapM_cons, ih]

/-- Rules compile together exactly when each of them compiles, to its own predicate. -/
lemma compileAll_eq_ok_iff {ctx : CompileContext} {rules : List Rule} {ps : List Predicate} :
    compileAll ctx rules = .ok ps ↔
      List.Forall₂ (fun rule p => rule.compile ctx = .ok p) rules ps := by
  rw [compileAll_eq_mapM, mapM_eq_ok_iff]

/-- A group compiles exactly when its rules do. -/
lemma compile_group_eq_ok_iff {ctx : CompileContext} {connective : Connective}
    {rules : List Rule} {p : Predicate} :
    (group connective rules).compile ctx = .ok p ↔
      ∃ ps, List.Forall₂ (fun rule p => rule.compile ctx = .ok p) rules ps ∧
        p = .ofGroup connective ps := by
  rw [compile]
  simp only [← compileAll_eq_ok_iff]
  cases hrules : compileAll ctx rules with
  | error e => simp [bind, Except.bind]
  | ok ps => simp [bind, Except.bind, pure, Except.pure, eq_comm]

end Rule

/-! ## Predicates all over -/

/-- Every comparison in a predicate has a property. -/
inductive Predicate.Everywhere (P : Field → ValueTest → Prop) : Predicate → Prop
  | always : Everywhere P .always
  | all {children : List Predicate} (h : ∀ p ∈ children, Everywhere P p) :
      Everywhere P (.all children)
  | any {children : List Predicate} (h : ∀ p ∈ children, Everywhere P p) :
      Everywhere P (.any children)
  | compare {field : Field} {test : ValueTest} (h : P field test) :
      Everywhere P (.compare field test)

/-- What holds everywhere in the children holds everywhere in their group. -/
lemma Predicate.Everywhere.ofGroup {P : Field → ValueTest → Prop} {connective : Connective}
    {ps : List Predicate} (h : ∀ p ∈ ps, p.Everywhere P) :
    (Predicate.ofGroup connective ps).Everywhere P := by
  unfold Predicate.ofGroup
  cases connective with
  | or => exact .any h
  | and =>
    simp only
    split
    · exact .always
    · exact .all h

/-- What the comparisons of a rule have once they are compiled, the compiled rule has everywhere. -/
theorem Rule.everywhere_of_leaves {ctx : CompileContext} {P : Field → ValueTest → Prop}
    {rule : Rule} (hP : ∀ c ∈ rule.leaves, ∀ (field : Field) (test : ValueTest),
      Field.ofName? c.field = some field → field.family = ctx.family →
        c.Tested ctx.timezone field.valueKind test → P field test)
    {p : Predicate} (h : rule.compile ctx = .ok p) : p.Everywhere P := by
  induction rule using Rule.treeInduction generalizing p with
  | all =>
    rw [Rule.compile] at h
    cases h
    exact .always
  | leaf c =>
    rw [Rule.compile] at h
    obtain ⟨field, test, hname, hfamily, htest, rfl⟩ := Comparison.compile_eq_ok_iff.1 h
    have hleaf : c ∈ (Rule.leaf c).leaves := by simp
    exact .compare (hP c hleaf field test hname hfamily (Comparison.tested_of_test htest))
  | group connective rules ih =>
    obtain ⟨ps, hps, rfl⟩ := Rule.compile_group_eq_ok_iff.1 h
    refine .ofGroup fun p hp => ?_
    obtain ⟨rule, hrule, hcompile⟩ := exists_left_of_mem_right hps hp
    refine ih rule hrule ?_ hcompile
    intro c hc
    refine hP c ?_
    rw [Rule.leaves_group]
    exact List.mem_flatMap.2 ⟨rule, hrule, hc⟩

/-- What every compiled comparison has, a compiled rule has everywhere. -/
theorem Rule.everywhere_of_compile {ctx : CompileContext} {P : Field → ValueTest → Prop}
    (hP : ∀ (c : Comparison) (field : Field) (test : ValueTest), field.family = ctx.family →
      c.Tested ctx.timezone field.valueKind test → P field test)
    {rule : Rule} {p : Predicate} (h : rule.compile ctx = .ok p) : p.Everywhere P :=
  Rule.everywhere_of_leaves (fun c _ field test _ => hP c field test) h

end PartQuery
