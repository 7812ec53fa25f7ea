import Mathlib.Data.String.Basic
import PartQuery.Proofs.Compiled
import PartQuery.Proofs.Pattern

/-!
# What rules mean

A rule can be read as it stands, without resolving anything first: a group asks for all of its rules
or for one of them, and a comparison asks whether some value that its field holds stands in the
relation of its operator to the operands. `Rule.Means` is that reading. It looks at the revision and
its iteration only and knows neither predicates nor tests.

The main statement is `holds_row_iff_means`: whenever a rule compiles, its predicate holds of a
revision and an iteration exactly when the rule, read as it stands, is true of them.
-/

namespace PartQuery

/-! ## How values stand to operands -/

/-- Two values are the same value; numbers are compared by value, and no value that is not a number
equals anything. -/
def Scalar.Equals : Scalar → Scalar → Prop
  | .number x, .number y => x.isNaN = false ∧ y.isNaN = false ∧ x.rank = y.rank
  | v, w => v = w

/-- A value comes before another of its kind: dates by time, numbers by size, texts by code
points. The other kinds have no order. -/
def Scalar.Below : Scalar → Scalar → Prop
  | .date s, .date t => s < t
  | .number x, .number y => x.isNaN = false ∧ y.isNaN = false ∧ x.rank < y.rank
  | .text s, .text t => s < t
  | _, _ => False

/-- A value does not come after another of its kind. -/
def Scalar.AtMost : Scalar → Scalar → Prop
  | .date s, .date t => s ≤ t
  | .number x, .number y => x.isNaN = false ∧ y.isNaN = false ∧ x.rank ≤ y.rank
  | .text s, .text t => s ≤ t
  | _, _ => False

/-- A date falls on the day that begins at an instant, whose end does not belong to it. -/
def Scalar.FallsOn (v : Scalar) (start : Instant) : Prop :=
  ∃ t stop, v = .date t ∧ start.nextDay? = some stop ∧ start ≤ t ∧ t < stop

/-- Two values are texts that stand in a relation when both are in lower case. -/
def Scalar.InLowerCase (R : List Char → List Char → Prop) (needle v : Scalar) : Prop :=
  ∃ n s, needle = .text n ∧ v = .text s ∧ R (Text.lowerChars n.toList) (Text.lowerChars s.toList)

/-- The relation of an operator between a value and the operands: both of them for `between`, the
first one for every other operator. -/
def Operator.Relates (operator : Operator) (v : Scalar) (operands : List Scalar) : Prop :=
  match operator, operands with
  | .equal, .date start :: _ => v.FallsOn start
  | .equal, w :: _ => v.Equals w
  | .notEqual, w :: _ => ¬v.Equals w
  | .between, [low, high] => low.AtMost v ∧ v.AtMost high
  | .less, w :: _ => v.Below w
  | .lessOrEqual, w :: _ => v.AtMost w
  | .greater, w :: _ => w.Below v
  | .greaterOrEqual, w :: _ => w.AtMost v
  | .contains, w :: _ => w.InLowerCase (fun n s => n <:+: s) v
  | .notContains, w :: _ => w.InLowerCase (fun n s => ¬n <:+: s) v
  | .beginsWith, w :: _ => w.InLowerCase (fun n s => n <+: s) v
  | .notBeginsWith, w :: _ => w.InLowerCase (fun n s => ¬n <+: s) v
  | .endsWith, w :: _ => w.InLowerCase (fun n s => n <:+ s) v
  | .notEndsWith, w :: _ => w.InLowerCase (fun n s => ¬n <:+ s) v
  | _, _ => False

/-! ## What fields hold -/

/-- An attribute of some kind shows a value. A reference shows the number of its part, and nothing
when it is unset. -/
def AttributeValue.Shows : AttributeValue → AttributeKind → Scalar → Prop
  | .text s, .text, v => v = .text s
  | .longText s, .longText, v => v = .text s
  | .url s, .url, v => v = .text s
  | .number x, .number, v => v = .number x
  | .boolean b, .boolean, v => v = .boolean b
  | .date t, .date, v => v = .date t
  | .lov index _, .lov, v => v = .lov index
  | .partNumber (some part), .partNumber, v => v = .text part.number
  | _, _, _ => False

/-- A field of a revision, looked at in one of its iterations, holds a value. An unset date is no
value; the check-in date and the modification date are held by the last iteration only; attributes
of one name may hold several values. -/
def Field.Holds (r : Revision) (i : Iteration) : Field → Scalar → Prop
  | .master .number, v => v = .text r.master.number
  | .master .name, v => v = .text r.master.name
  | .master .type, v => v = .text r.master.type
  | .master .creationDate, v => ∃ t, r.master.creationDate = some t ∧ v = .date t
  | .revision .version, v => v = .text r.version
  | .revision .description, v => v = .text r.description
  | .revision .creationDate, v => ∃ t, r.creationDate = some t ∧ v = .date t
  | .revision .checkoutDate, v => ∃ t, r.checkoutDate = some t ∧ v = .date t
  | .revision .lifeCycleState, v => v = .text r.lifeCycleState
  | .revision .checkInDate, v =>
    i.number = r.iterations.length ∧ ∃ t, i.checkInDate = some t ∧ v = .date t
  | .revision .modificationDate, v =>
    i.number = r.iterations.length ∧ ∃ t, i.modificationDate = some t ∧ v = .date t
  | .revision .status, v => v = .status r.status
  | .revision .tags, _ => False
  | .revision .linkedDocuments, _ => False
  | .author .login, v => v = .text r.author.login
  | .author .name, v => v = .text r.author.name
  | .author .email, v => v = .text r.author.email
  | .author .language, v => v = .text r.author.language
  | .dynamic .revision kind name, v => ∃ a ∈ i.attributes, a.name = name ∧ a.value.Shows kind v
  | .dynamic .pathData _ _, _ => False

/-! ## The reading of a rule -/

/-- A comparison is true of a revision and an iteration. Linked documents are not looked at. Labels
are wanted or not wanted. Any other field must hold a value in the right relation to the operands,
all of which can be read. -/
def Comparison.Means (timezone : Offset) (r : Revision) (i : Iteration) (c : Comparison) : Prop :=
  match Field.ofName? c.field with
  | none => False
  | some (.revision .linkedDocuments) => True
  | some (.revision .tags) =>
    (c.operator = .equal ∧ ∃ label ∈ c.values, label ∈ r.tags) ∨
      (c.operator = .notEqual ∧ ¬∃ label ∈ c.values, label ∈ r.tags)
  | some field =>
    ∃ v operands, field.Holds r i v ∧
      c.values.mapM (field.valueKind.operand? c.type timezone) = some operands ∧
      c.operator.Relates v operands

/-- A rule is true of a revision and an iteration. -/
def Rule.Means (timezone : Offset) (r : Revision) (i : Iteration) : Rule → Prop
  | .all => True
  | .leaf c => c.Means timezone r i
  | .group .and rules => ∀ rule, rule ∈ rules → rule.Means timezone r i
  | .group .or rules => ∃ rule, ∃ _ : rule ∈ rules, rule.Means timezone r i

/-! ## Tests and relations -/

/-- Equality of values as tests decide it. -/
lemma same_iff {v w : Scalar} : v.same w = true ↔ v.Equals w := by
  cases v <;> cases w <;>
    simp [Scalar.same, Scalar.Equals, Binary64.same, Binary64.compare?, and_assoc]

/-- Comparing the other way round gives the opposite answer. -/
lemma compare?_swap (v w : Scalar) : w.compare? v = (v.compare? w).map Ordering.swap := by
  cases v with
  | text s =>
    cases w with
    | text t => exact congrArg some Std.OrientedOrd.eq_swap
    | _ => rfl
  | date s =>
    cases w with
    | date t => exact congrArg some Std.OrientedOrd.eq_swap
    | _ => rfl
  | number x =>
    cases w with
    | number y =>
      have hswap : compare y.rank x.rank = (compare x.rank y.rank).swap := Std.OrientedOrd.eq_swap
      by_cases hx : x.isNaN = true <;> by_cases hy : y.isNaN = true <;>
        simp [Scalar.compare?, Binary64.compare?, hx, hy, hswap]
    | _ => rfl
  | _ => cases w <;> rfl

/-- Numbers compare by their places in the order, and only numbers do. -/
lemma any_compare?_iff {x y : Binary64} {test : Ordering → Bool} :
    (x.compare? y).any test = true ↔
      x.isNaN = false ∧ y.isNaN = false ∧ test (compare x.rank y.rank) = true := by
  by_cases hx : x.isNaN = true <;> by_cases hy : y.isNaN = true <;>
    simp [Binary64.compare?, hx, hy]

/-- A value compares as less than another exactly when it is below it. -/
lemma isLT_compare?_iff {v w : Scalar} :
    (v.compare? w).any (·.isLT) = true ↔ v.Below w := by
  cases v with
  | text s =>
    cases w with
    | text t => exact Ordering.isLT_iff_eq_lt.trans compare_lt_iff_lt
    | _ => simp [Scalar.compare?, Scalar.Below]
  | date s =>
    cases w with
    | date t => exact Ordering.isLT_iff_eq_lt.trans Int.compare_eq_lt
    | _ => simp [Scalar.compare?, Scalar.Below]
  | number x =>
    cases w with
    | number y =>
      exact any_compare?_iff.trans (by rw [Ordering.isLT_iff_eq_lt, Int.compare_eq_lt]; rfl)
    | _ => simp [Scalar.compare?, Scalar.Below]
  | _ => cases w <;> simp [Scalar.compare?, Scalar.Below]

/-- A value compares as not greater than another exactly when it is at most that. -/
lemma isLE_compare?_iff {v w : Scalar} :
    (v.compare? w).any (·.isLE) = true ↔ v.AtMost w := by
  cases v with
  | text s =>
    cases w with
    | text t => exact Ordering.ne_gt_iff_isLE.symm.trans compare_le_iff_le
    | _ => simp [Scalar.compare?, Scalar.AtMost]
  | date s =>
    cases w with
    | date t => exact Int.isLE_compare
    | _ => simp [Scalar.compare?, Scalar.AtMost]
  | number x =>
    cases w with
    | number y => exact any_compare?_iff.trans (by rw [Int.isLE_compare]; rfl)
    | _ => simp [Scalar.compare?, Scalar.AtMost]
  | _ => cases w <;> simp [Scalar.compare?, Scalar.AtMost]

/-- A value compares as greater than another exactly when that is below it. -/
lemma isGT_compare?_iff {v w : Scalar} :
    (v.compare? w).any (·.isGT) = true ↔ w.Below v := by
  rw [← isLT_compare?_iff, compare?_swap v w, Option.any_map]
  simp

/-- A value compares as not less than another exactly when that is at most the value. -/
lemma isGE_compare?_iff {v w : Scalar} :
    (v.compare? w).any (·.isGE) = true ↔ w.AtMost v := by
  rw [← isLE_compare?_iff, compare?_swap v w, Option.any_map]
  simp

/-- A negated search finds the opposite. -/
lemma bne_holds_iff {mode : LikeMode} {needle s : List Char} {negated : Bool} :
    (mode.holds needle s != negated) = true ↔
      (negated = false ∧ mode.Finds needle s) ∨ (negated = true ∧ ¬mode.Finds needle s) := by
  rw [← LikeMode.holds_iff_finds]
  cases negated <;> simp

/-- Texts pass the test of a text operator when they stand in its relation in lower case. -/
lemma passes_like_iff {mode : LikeMode} {negated : Bool} {s : String} {v : Scalar} :
    (ValueTest.like mode (Text.lower s) negated).passes v = true ↔
      (Scalar.text s).InLowerCase (fun n t =>
        (negated = false ∧ mode.Finds n t) ∨ (negated = true ∧ ¬mode.Finds n t)) v := by
  simp only [ValueTest.passes, Option.any_eq_true, Text.toList_lower, bne_holds_iff]
  constructor
  · rintro ⟨t, ht, hfinds⟩
    cases v <;> simp only [Scalar.text?, reduceCtorEq, Option.some.injEq] at ht
    exact ⟨s, t, rfl, congrArg Scalar.text ht, hfinds⟩
  · rintro ⟨n, t, hn, rfl, hfinds⟩
    cases hn
    exact ⟨t, rfl, hfinds⟩

/-- A value passes the test that an operator makes exactly when it stands in the relation of the
operator to the operands. -/
lemma Operator.Makes.passes_iff {operator : Operator} {operands : List Scalar} {test : ValueTest}
    (h : operator.Makes operands test) {v : Scalar} :
    test.passes v = true ↔ operator.Relates v operands := by
  cases h with
  | @day start stop rest hstop =>
    cases v <;> simp [ValueTest.passes, Operator.Relates, Scalar.FallsOn, hstop]
  | @equal w rest hkind =>
    have hrelates : Operator.equal.Relates v (w :: rest) = v.Equals w := by
      cases w <;> first | rfl | exact absurd rfl hkind
    rw [hrelates]
    exact same_iff
  | @notEqual w rest =>
    simp only [ValueTest.passes, Operator.Relates, Bool.not_eq_true', ← same_iff,
      Bool.not_eq_true]
  | range hkind =>
    simp only [ValueTest.passes, Operator.Relates, Bool.and_eq_true]
    exact and_congr isGE_compare?_iff isLE_compare?_iff
  | ordering hkind htest =>
    cases operator <;> simp only [ValueTest.ordering?, reduceCtorEq, Option.some.injEq] at htest
    all_goals subst htest
    · exact isLT_compare?_iff
    · exact isLE_compare?_iff
    · exact isGT_compare?_iff
    · exact isGE_compare?_iff
  | like hmode =>
    rw [passes_like_iff]
    cases operator <;>
      simp only [ValueTest.likeMode?, reduceCtorEq, Option.some.injEq, Prod.mk.injEq] at hmode
    all_goals
      obtain ⟨rfl, rfl⟩ := hmode
      simp [Operator.Relates, LikeMode.Finds]

/-! ## Fields and rows -/

/-- What comparisons see of an attribute is what it shows. -/
lemma scalarOf?_eq_some_iff {kind : AttributeKind} {a : AttributeValue} {v : Scalar} :
    a.scalarOf? kind = some v ↔ a.Shows kind v := by
  cases a with
  | partNumber part =>
    cases part <;> cases kind <;>
      simp [AttributeValue.scalarOf?, AttributeValue.scalar?, AttributeValue.kind,
        AttributeValue.Shows, eq_comm]
  | _ =>
    cases kind <;>
      simp [AttributeValue.scalarOf?, AttributeValue.scalar?, AttributeValue.kind,
        AttributeValue.Shows, eq_comm]

/-- Some attribute passes a test exactly when one of that kind and name shows a value that does. -/
lemma hasAttribute_iff_shows {attributes : List Attribute} {kind : AttributeKind} {name : String}
    {test : Scalar → Bool} :
    hasAttribute attributes kind name test = true ↔
      ∃ v, (∃ a ∈ attributes, a.name = name ∧ a.value.Shows kind v) ∧ test v = true := by
  simp only [hasAttribute_iff, Option.any_eq_true, scalarOf?_eq_some_iff]
  constructor
  · rintro ⟨a, ha, hname, v, hshows, hv⟩
    exact ⟨v, ⟨a, ha, hname, hshows⟩, hv⟩
  · rintro ⟨v, ⟨a, ha, hname, hshows⟩, hv⟩
    exact ⟨a, ha, hname, v, hshows, hv⟩

/-- The value of a field in the row of an iteration is the one that the field holds. -/
lemma value?_row_iff {r : Revision} {i : Iteration} {field : Field}
    (hfield : ∀ owner kind name, field ≠ .dynamic owner kind name) {v : Scalar} :
    ((!field.isLastIterationOnly || (i.row r).isLast) = true ∧ (i.row r).value? field = some v) ↔
      field.Holds r i v := by
  cases field with
  | master f =>
    cases f <;> simp [Iteration.row, Field.Holds, Field.isLastIterationOnly, @eq_comm _ v]
  | revision f =>
    cases f <;>
      simp [Iteration.row, Field.Holds, Field.isLastIterationOnly, Revision.isLast, @eq_comm _ v]
  | author f =>
    cases f <;> simp [Iteration.row, Field.Holds, Field.isLastIterationOnly, @eq_comm _ v]
  | dynamic owner kind name => exact absurd rfl (hfield owner kind name)

/-- A test of values holds of a row exactly when the field holds a value that passes. -/
lemma compares_row_iff {r : Revision} {i : Iteration} {field : Field} {test : ValueTest}
    (hfamily : field.family = .revision) (htest : test.IsOfValues) :
    Predicate.compares (i.row r) field test = true ↔
      ∃ v, field.Holds r i v ∧ test.passes v = true := by
  by_cases hdynamic : ∃ owner kind name, field = .dynamic owner kind name
  · obtain ⟨owner, kind, name, rfl⟩ := hdynamic
    rw [Predicate.compares_dynamic htest]
    cases owner with
    | revision =>
      simp only [Iteration.row, Option.any_some]
      exact hasAttribute_iff_shows
    | pathData => cases hfamily
  · have hfield : ∀ owner kind name, field ≠ .dynamic owner kind name :=
      fun owner kind name h => hdynamic ⟨owner, kind, name, h⟩
    rw [Predicate.compares_of_not_dynamic htest hfield, Bool.and_eq_true, Option.any_eq_true]
    constructor
    · rintro ⟨hlast, v, hvalue, hv⟩
      exact ⟨v, (value?_row_iff hfield).1 ⟨hlast, hvalue⟩, hv⟩
    · rintro ⟨v, hholds, hv⟩
      obtain ⟨hlast, hvalue⟩ := (value?_row_iff hfield).2 hholds
      exact ⟨hlast, v, hvalue, hv⟩

/-! ## Rules -/

/-- Linked documents are the only field that is not looked at. -/
lemma Field.eq_of_valueKind_unchecked {field : Field} (h : field.valueKind = .unchecked) :
    field = .revision .linkedDocuments := by
  cases field with
  | master f => cases f <;> cases h
  | revision f => cases f <;> first | rfl | cases h
  | author f => cases h
  | dynamic owner kind name => cases kind <;> cases h

/-- Labels are held by one field only. -/
lemma Field.eq_of_valueKind_tags {field : Field} (h : field.valueKind = .tags) :
    field = .revision .tags := by
  cases field with
  | master f => cases f <;> cases h
  | revision f => cases f <;> first | rfl | cases h
  | author f => cases h
  | dynamic owner kind name => cases kind <;> cases h

/-- A test of values is made for a field that holds values. -/
lemma Operator.Makes.isValue {operator : Operator} {operands : List Scalar} {test : ValueTest}
    {kind : ValueKind} (h : operator.Makes operands test) (hkinds : ∀ v ∈ operands, v.kind = kind) :
    kind ≠ .unchecked ∧ kind ≠ .tags := by
  obtain ⟨v, hv⟩ : ∃ v, v ∈ operands := by
    cases h <;> exact ⟨_, List.mem_cons_self⟩
  rw [← hkinds v hv]
  cases v <;> simp [Scalar.kind]

/-- A comparison of a field that holds values is true when one of them stands in the relation. -/
lemma Comparison.means_iff_of_isValue {timezone : Offset} {c : Comparison} {field : Field}
    (hname : Field.ofName? c.field = some field)
    (hkind : field.valueKind ≠ .unchecked ∧ field.valueKind ≠ .tags) {r : Revision}
    {i : Iteration} :
    c.Means timezone r i ↔ ∃ v operands, field.Holds r i v ∧
      c.values.mapM (field.valueKind.operand? c.type timezone) = some operands ∧
      c.operator.Relates v operands := by
  unfold Comparison.Means
  rw [hname]
  cases field with
  | revision f =>
    cases f with
    | linkedDocuments => exact absurd rfl hkind.1
    | tags => exact absurd rfl hkind.2
    | _ => exact Iff.rfl
  | _ => exact Iff.rfl

/-- A compiled comparison holds of a row exactly when it is true as it stands. -/
lemma Comparison.compares_iff_means {timezone : Offset} {c : Comparison} {field : Field}
    {test : ValueTest} (hname : Field.ofName? c.field = some field)
    (hfamily : field.family = .revision) (htest : c.Tested timezone field.valueKind test)
    (r : Revision) (i : Iteration) :
    Predicate.compares (i.row r) field test = true ↔ c.Means timezone r i := by
  generalize hkind : field.valueKind = kind at htest
  cases htest with
  | unchecked =>
    obtain rfl := Field.eq_of_valueKind_unchecked hkind
    simp [Predicate.compares, Comparison.Means, hname]
  | tagsAny hoperator hvalues =>
    obtain rfl := Field.eq_of_valueKind_tags hkind
    simp [Predicate.compares, Comparison.Means, hname, hoperator, Iteration.row]
  | tagsNone hoperator hvalues =>
    obtain rfl := Field.eq_of_valueKind_tags hkind
    simp [Predicate.compares, Comparison.Means, hname, hoperator, Iteration.row]
  | @value kind operands test hread hkinds hmakes =>
    subst hkind
    rw [compares_row_iff hfamily hmakes.isOfValues,
      Comparison.means_iff_of_isValue hname (hmakes.isValue hkinds)]
    constructor
    · rintro ⟨v, hholds, hv⟩
      exact ⟨v, operands, hholds, hread, hmakes.passes_iff.1 hv⟩
    · rintro ⟨v, operands', hholds, hread', hrelates⟩
      obtain rfl : operands' = operands := Option.some.inj (hread'.symm.trans hread)
      exact ⟨v, hholds, hmakes.passes_iff.2 hrelates⟩

/-- A group joined by `and` holds exactly when all that it joins hold. -/
lemma Predicate.holds_ofGroup_and {row : Row} {ps : List Predicate} :
    (Predicate.ofGroup .and ps).holds row = true ↔ ∀ p ∈ ps, p.holds row = true := by
  cases ps <;> simp [Predicate.ofGroup]

/-- A group joined by `or` holds exactly when one of those that it joins holds. -/
lemma Predicate.holds_ofGroup_or {row : Row} {ps : List Predicate} :
    (Predicate.ofGroup .or ps).holds row = true ↔ ∃ p ∈ ps, p.holds row = true := by
  simp [Predicate.ofGroup]

/-- Whenever a rule compiles, its predicate holds of a revision and an iteration exactly when the
rule, read as it stands, is true of them. -/
theorem holds_row_iff_means {timezone : Offset} :
    ∀ {rule : Rule} {p : Predicate}, rule.compile ⟨.revision, timezone⟩ = .ok p →
      ∀ (r : Revision) (i : Iteration), p.holds (i.row r) = true ↔ rule.Means timezone r i
  | .all, p, h, r, i => by
    rw [Rule.compile] at h
    cases h
    simp [Rule.Means]
  | .leaf c, p, h, r, i => by
    rw [Rule.compile] at h
    obtain ⟨field, test, hname, hfamily, htest, rfl⟩ := Comparison.compile_eq_ok_iff.1 h
    rw [Predicate.holds_compare, Rule.Means]
    exact Comparison.compares_iff_means hname hfamily (Comparison.tested_of_test htest) r i
  | .group .and rules, p, h, r, i => by
    obtain ⟨ps, hps, rfl⟩ := Rule.compile_group_eq_ok_iff.1 h
    rw [Predicate.holds_ofGroup_and, Rule.Means]
    constructor
    · intro hall rule hrule
      obtain ⟨p, hp, hcompile⟩ := exists_right_of_mem_left hps hrule
      exact (holds_row_iff_means hcompile r i).1 (hall p hp)
    · intro hall p hp
      obtain ⟨rule, hrule, hcompile⟩ := exists_left_of_mem_right hps hp
      exact (holds_row_iff_means hcompile r i).2 (hall rule hrule)
  | .group .or rules, p, h, r, i => by
    obtain ⟨ps, hps, rfl⟩ := Rule.compile_group_eq_ok_iff.1 h
    rw [Predicate.holds_ofGroup_or, Rule.Means]
    constructor
    · rintro ⟨p, hp, hholds⟩
      obtain ⟨rule, hrule, hcompile⟩ := exists_left_of_mem_right hps hp
      exact ⟨rule, hrule, (holds_row_iff_means hcompile r i).1 hholds⟩
    · rintro ⟨rule, hrule, hmeans⟩
      obtain ⟨p, hp, hcompile⟩ := exists_right_of_mem_left hps hrule
      exact ⟨p, hp, (holds_row_iff_means hcompile r i).2 hmeans⟩

/-- A rule with groups in groups: made on a day or labelled as new, and not red. -/
def sampleRule : Rule :=
  .group .and [.all, .group .and [],
    .group .or [.leaf ⟨"pr.creationDate", .equal, ["2024-03-01"], .date⟩,
      .leaf ⟨"pr.tags", .equal, ["new"], .string⟩, .group .or []],
    .leaf ⟨"attr-TEXT.colour", .notContains, ["RED"], .string⟩]

/-- An iteration of some colour. -/
def sampleIteration (colour : String) : Iteration :=
  ⟨1, none, none, [⟨"colour", .text colour⟩]⟩

/-- A revision without labels that was made in the leap second at the end of a day. -/
def sampleRevision : Revision :=
  { (default : Revision) with
    creationDate := some ⟨739251, 86399, 1500000000, by decide, by decide, by decide⟩
    iterations := [sampleIteration "Infrared", sampleIteration "Blue"] }

/-- The rule is true of the blue iteration, and not of the other one, as its predicate says. -/
theorem sampleRule_means :
    sampleRule.Means Offset.zero sampleRevision (sampleIteration "Blue") ∧
      ¬sampleRule.Means Offset.zero sampleRevision (sampleIteration "Infrared") := by
  have hblue : (sampleRule.compile ⟨.revision, Offset.zero⟩).map
      (·.holds ((sampleIteration "Blue").row sampleRevision)) = .ok true := by
    decide +kernel
  have hred : (sampleRule.compile ⟨.revision, Offset.zero⟩).map
      (·.holds ((sampleIteration "Infrared").row sampleRevision)) = .ok false := by
    decide +kernel
  cases hcompile : sampleRule.compile ⟨.revision, Offset.zero⟩ with
  | error e =>
    rw [hcompile] at hblue
    cases hblue
  | ok p =>
    rw [hcompile] at hblue hred
    simp only [Except.map, Except.ok.injEq] at hblue hred
    rw [← holds_row_iff_means hcompile, ← holds_row_iff_means hcompile, hblue, hred]
    exact ⟨rfl, Bool.false_ne_true⟩

end PartQuery
