import Mathlib.Algebra.Ring.Int.Defs
import PartQuery.Proofs.Meaning
import PartQuery.Proofs.Sql.Evaluation
import PartQuery.Sql.Statement

/-!
# Predicates as conditions

The condition drafted for a predicate is true exactly when the predicate holds, as soon as this is
so for the comparisons in it: groups become connectives, and alternatives that ask one column for
equality become a list of values. A test becomes a condition on a column that is true exactly when
the column holds a value that passes; an empty cell makes no test true, not even a negated one.
-/

namespace PartQuery.Sql

/-! ## Values as literals -/

/-- A status is known by its word. -/
lemma status_name_inj {s t : Status} : s.name = t.name ↔ s = t := by
  cases s <;> cases t <;> decide

/-- Values of one kind are the same value exactly when their literals are equal. -/
lemma equals_literal {v w : Scalar} (hkind : v.kind = w.kind) :
    (literal v).equals (literal w) = v.same w := by
  rw [Bool.eq_iff_iff]
  cases v <;> cases w <;> simp only [Scalar.kind, reduceCtorEq] at hkind
  all_goals simp [literal, Literal.equals, Scalar.same, status_name_inj]

/-- Values of one ordered kind compare as their literals do. -/
lemma compare?_literal {v w : Scalar} (hkind : v.kind = w.kind) (hordered : w.kind.IsOrdered) :
    (literal v).compare? (literal w) = v.compare? w := by
  cases v <;> cases w <;> simp_all [Scalar.kind, ValueKind.IsOrdered] <;> rfl

/-- A text meets the pattern of a needle exactly when the needle is found in it. -/
lemma meets_pattern_eq_holds {mode : LikeMode} {needle s : String} :
    meetsPattern (mode.pattern needle) s = mode.holds needle.toList s.toList := by
  rw [Bool.eq_iff_iff, meets_pattern_iff, LikeMode.holds_iff_finds]

/-! ## Tests -/

variable {db : Database} {b : Binding} {column : Column}

/-- The condition of a test is never true of an empty column. -/
lemma eval_testCondition_of_empty {operator : Operator} {operands : List Scalar}
    {test : ValueTest} (hmakes : operator.Makes operands test) (hempty : b.value column = none) :
    (testCondition column test).eval db b ≠ some true := by
  cases hmakes with
  | ordering hordered htest =>
    cases operator <;> simp only [ValueTest.ordering?, reduceCtorEq, Option.some.injEq] at htest
    all_goals
      subst htest
      simp [testCondition, Condition.eval, hempty]
  | _ => simp [testCondition, Condition.eval, hempty]

/-- The condition of a test is true of a value of the kind of the operands exactly when the value
passes. -/
lemma eval_testCondition_of_value {operator : Operator} {operands : List Scalar}
    {test : ValueTest} (hmakes : operator.Makes operands test) {v : Scalar}
    (hkinds : ∀ w ∈ operands, v.kind = w.kind) (hvalue : b.value column = some (literal v)) :
    (testCondition column test).eval db b = some true ↔ test.passes v = true := by
  cases hmakes with
  | @day start stop rest hstop =>
    obtain ⟨t, rfl⟩ := Scalar.exists_date_of_kind (hkinds _ List.mem_cons_self)
    have hstart : Relation.greaterOrEqual.holds (.date t) (.date start) = true ↔ start ≤ t :=
      Int.isGE_compare
    have hstop : Relation.less.holds (.date t) (.date stop) = true ↔ t < stop :=
      Ordering.isLT_iff_eq_lt.trans Int.compare_eq_lt
    simp [testCondition, Condition.eval, hvalue, literal, hstart, hstop, ValueTest.passes]
  | @equal w rest hdate =>
    have hw : v.kind = w.kind := hkinds w List.mem_cons_self
    simp [testCondition, Condition.eval, hvalue, Relation.holds, equals_literal hw,
      ValueTest.passes]
  | @notEqual w rest =>
    have hw : v.kind = w.kind := hkinds w List.mem_cons_self
    simp [testCondition, Condition.eval, hvalue, Relation.holds, equals_literal hw,
      ValueTest.passes]
  | @range low high hordered =>
    have hlow : v.kind = low.kind := hkinds low (by simp)
    have hhigh : v.kind = high.kind := hkinds high (by simp)
    have hordered' : high.kind.IsOrdered := by
      rw [← hhigh, hlow]
      exact hordered
    simp [testCondition, Condition.eval, hvalue, Relation.holds, ValueTest.passes,
      compare?_literal hlow hordered, compare?_literal hhigh hordered']
  | @ordering operator w rest test hordered htest =>
    have hw : v.kind = w.kind := hkinds w List.mem_cons_self
    cases operator <;> simp only [ValueTest.ordering?, reduceCtorEq, Option.some.injEq] at htest
    all_goals
      subst htest
      simp [testCondition, Condition.eval, hvalue, Relation.holds, ValueTest.passes,
        compare?_literal hw hordered]
  | @like operator mode negated s rest hmode =>
    obtain ⟨t, rfl⟩ := Scalar.exists_text_of_kind (hkinds _ List.mem_cons_self)
    simp [testCondition, Condition.eval, hvalue, literal, meets_pattern_eq_holds,
      ValueTest.passes, Scalar.text?]

/-- The condition of a test is true exactly when the column holds a value that passes. -/
lemma eval_testCondition {operator : Operator} {operands : List Scalar} {test : ValueTest}
    {kind : ValueKind} (hmakes : operator.Makes operands test)
    (hkinds : ∀ w ∈ operands, w.kind = kind) {x : Option Scalar} (hx : ∀ v ∈ x, v.kind = kind)
    (hcolumn : b.value column = x.map literal) :
    (testCondition column test).eval db b = some true ↔ x.any test.passes = true := by
  cases x with
  | none =>
    rw [Option.any_none]
    exact iff_of_false (eval_testCondition_of_empty hmakes hcolumn) Bool.false_ne_true
  | some v =>
    have hv : v.kind = kind := hx v rfl
    rw [Option.any_some]
    exact eval_testCondition_of_value hmakes (fun w hw => hv.trans (hkinds w hw).symm) hcolumn

/-! ## Comparisons -/

variable {config : Config}

/-- A comparison of an attribute looks for attributes. -/
lemma draftComparison_dynamic {owner : Family} {kind : AttributeKind} {name : String}
    {test : ValueTest} (htest : test.IsOfValues) :
    draftComparison config (.dynamic owner kind name) test =
      (return .exist (← attributeSelect config owner kind name test) false) := by
  cases test <;> first | rfl | exact htest.elim

/-- A comparison of a field that is held in a column tests that column, in the last iteration only
if the field is read from there. -/
lemma draftComparison_of_column {field : Field} {test : ValueTest} {column : Column}
    (htest : test.IsOfValues) (hcolumn : column? field = some column) :
    draftComparison config field test =
      if field.isLastIterationOnly then
        return .and (← lastIteration config) (testCondition column test)
      else return testCondition column test := by
  cases field with
  | dynamic owner kind name => cases hcolumn
  | _ => cases test <;> first | exact htest.elim | simp only [draftComparison, hcolumn]

/-! ## Groups -/

/-- Predicates are drafted one by one, in whatever state the ones before leave. -/
lemma forall₂_draftAll (ps : List Predicate) (s : Draft) :
    List.Forall₂ (fun p c => ∃ s, ((draft config p).run s).1 = c) ps
      ((draftAll config ps).run s).1 := by
  induction ps generalizing s with
  | nil =>
    rw [draftAll]
    exact .nil
  | cons p rest ih =>
    rw [draftAll]
    exact .cons ⟨s, rfl⟩ (ih _)

/-- Equalities are all that the alternatives ask for. -/
lemma eq_map_of_equalities? {field : Field} {children : List Predicate} {values : List Scalar}
    (h : equalities? field children = some values) :
    children = values.map fun v => .compare field (.equal v) := by
  induction children generalizing values with
  | nil =>
    cases h
    rfl
  | cons child rest ih =>
    unfold equalities? at h
    split at h
    · cases ‹_ :: _ = []›
    · next f v rest' heq =>
      cases heq
      obtain ⟨hfield, h⟩ := Option.ite_none_right_eq_some.1 h
      obtain ⟨vs, hvs, rfl⟩ := Option.map_eq_some_iff.1 h
      rw [hfield, ih hvs, List.map_cons]
    · cases h

/-- Alternatives that a list of values may replace ask one column for equality with them. -/
lemma exists_field_of_valueList? {children : List Predicate} {column : Column}
    {values : List Scalar} (h : valueList? config children = some (column, values)) :
    ∃ field, column? field = some column ∧ field.isLastIterationOnly = false ∧
      children = values.map fun v => .compare field (.equal v) := by
  unfold valueList? at h
  split at h
  · cases h
  · split at h
    · next field v rest _ =>
      split at h
      · cases h
      · next hlast =>
        simp only [Option.bind_eq_bind, Option.bind_eq_some_iff, Option.pure_def,
          Option.some.injEq, Prod.mk.injEq] at h
        obtain ⟨vs, hvs, c, hc, rfl, rfl⟩ := h
        exact ⟨field, hc, by simpa using hlast, eq_map_of_equalities? hvs⟩
    · cases h

section Drafting

variable {row : Row} {children : List Predicate}

/-- If all conditions drafted for some predicates are right, then so is their conjunction. -/
lemma eval_conjunction_draftAll (hchildren : ∀ child ∈ children, ∀ s,
      ((draft config child).run s).1.eval db b = some true ↔ child.holds row = true)
    (s : Draft) :
    (Condition.conjunction ((draftAll config children).run s).1).eval db b = some true ↔
      ∀ child ∈ children, child.holds row = true := by
  have hpairs := @forall₂_draftAll config children s
  rw [eval_conjunction]
  constructor
  · intro hall child hchild
    obtain ⟨c, hc, s', rfl⟩ := exists_right_of_mem_left hpairs hchild
    exact (hchildren child hchild s').1 (hall _ hc)
  · intro hall c hc
    obtain ⟨child, hchild, s', rfl⟩ := exists_left_of_mem_right hpairs hc
    exact (hchildren child hchild s').2 (hall child hchild)

/-- If all conditions drafted for some predicates are right, then so is their disjunction. -/
lemma eval_disjunction_draftAll (hchildren : ∀ child ∈ children, ∀ s,
      ((draft config child).run s).1.eval db b = some true ↔ child.holds row = true)
    (s : Draft) :
    (Condition.disjunction ((draftAll config children).run s).1).eval db b = some true ↔
      ∃ child ∈ children, child.holds row = true := by
  have hpairs := @forall₂_draftAll config children s
  rw [eval_disjunction]
  constructor
  · rintro ⟨c, hc, htrue⟩
    obtain ⟨child, hchild, s', rfl⟩ := exists_left_of_mem_right hpairs hc
    exact ⟨child, hchild, (hchildren child hchild s').1 htrue⟩
  · rintro ⟨child, hchild, hholds⟩
    obtain ⟨c, hc, s', rfl⟩ := exists_right_of_mem_left hpairs hchild
    exact ⟨_, hc, (hchildren child hchild s').2 hholds⟩

/-- A list of values asks for what the alternatives ask for that it replaces. -/
lemma eval_oneOf_of_valueList? {values : List Scalar}
    (hchildren : ∀ child ∈ children, ∀ s,
      ((draft config child).run s).1.eval db b = some true ↔ child.holds row = true)
    (hlist : valueList? config children = some (column, values)) :
    (Condition.oneOf column (values.map literal)).eval db b = some true ↔
      ∃ child ∈ children, child.holds row = true := by
  obtain ⟨field, hcolumn, hlast, rfl⟩ := exists_field_of_valueList? hlist
  -- Each of the alternatives would have become a comparison of the column.
  have hvalue : ∀ v ∈ values, (related (b.value column) .equal (some (literal v)) = some true ↔
      (Predicate.compare field (.equal v)).holds row = true) := by
    intro v hv
    have htest : (ValueTest.equal v).IsOfValues := trivial
    rw [← hchildren _ (List.mem_map_of_mem hv) {}, draft,
      draftComparison_of_column htest hcolumn, hlast]
    exact Iff.rfl
  simp only [eval_oneOf, List.mem_map, exists_exists_and_eq_and]
  constructor
  · rintro ⟨v, hv, hrelated⟩
    exact ⟨v, hv, (hvalue v hv).1 hrelated⟩
  · rintro ⟨v, hv, hholds⟩
    exact ⟨v, hv, (hvalue v hv).2 hholds⟩

/-- If the condition of each comparison is true exactly when the comparison holds, then so is the
condition of a predicate made of them. -/
theorem eval_draft {P : Field → ValueTest → Prop}
    (hcompare : ∀ field test, P field test → ∀ s,
      ((draftComparison config field test).run s).1.eval db b = some true ↔
        Predicate.compares row field test = true)
    {p : Predicate} (hp : p.Everywhere P) (s : Draft) :
    ((draft config p).run s).1.eval db b = some true ↔ p.holds row = true := by
  induction hp generalizing s with
  | always =>
    rw [draft, Predicate.holds_always]
    change (Condition.constant true).eval db b = some true ↔ _
    simp [Condition.eval]
  | @all children _ ih =>
    rw [draft, Predicate.holds_all, List.all_eq_true]
    exact eval_conjunction_draftAll ih s
  | @any children _ ih =>
    rw [draft, Predicate.holds_any, List.any_eq_true]
    split
    · next column values hlist => exact eval_oneOf_of_valueList? ih hlist
    · exact eval_disjunction_draftAll ih s
  | @compare field test h =>
    rw [draft, Predicate.holds_compare]
    exact hcompare field test h s

end Drafting

end PartQuery.Sql
