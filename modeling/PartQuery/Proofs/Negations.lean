import PartQuery.Proofs.Leaves
import PartQuery.Proofs.Search

/-!
# Operators and their negations

Equality and the three searches of texts have an operator that negates them. What the negation means
depends on how many values a row offers of the field. Of one value the two operators say opposite
things, and so they do of labels, which are asked for as a set. Where no value is offered, neither
holds. Of several attributes each operator wants one for itself, and so both hold as soon as two of
the attributes differ in what is asked (`SplitAttributes`).

Dates are an exception: equality with a date asks for the day that begins there, while its negation
asks for another instant, so that both hold within that day (`OverlapOnDates`).

The main statement is `plain_and_negated`.
-/

namespace PartQuery

/-- The operator that negates another, if there is one. -/
def Operator.negation? : Operator → Option Operator
  | .equal => some .notEqual
  | .contains => some .notContains
  | .beginsWith => some .notBeginsWith
  | .endsWith => some .notEndsWith
  | _ => none

/-! ## One value -/

/-- A value stands in the relation of the negated operator to the operands exactly when it does not
stand in the relation of the plain one, unless it is a date. -/
lemma Operator.Makes.relates_negated_iff {plain negated : Operator}
    (hpair : plain.negation? = some negated) {operands : List Scalar} {test : ValueTest}
    (hmakes : plain.Makes operands test) {v : Scalar} (hkinds : ∀ w ∈ operands, v.kind = w.kind)
    (hdate : v.kind ≠ .date) : negated.Relates v operands ↔ ¬plain.Relates v operands := by
  cases hmakes with
  | day hstop => exact absurd (hkinds _ List.mem_cons_self) hdate
  | @equal w rest hkind =>
    cases hpair
    have hrelates : Operator.equal.Relates v (w :: rest) = v.Equals w := by
      cases w <;> first | rfl | exact absurd rfl hkind
    rw [hrelates]
    exact Iff.rfl
  | notEqual => cases hpair
  | range hkind => cases hpair
  | ordering hkind htest => cases plain <;> cases hpair <;> cases htest
  | @like plain mode negated' s rest hmode =>
    obtain ⟨t, rfl⟩ := Scalar.exists_text_of_kind (hkinds _ List.mem_cons_self)
    have hsearch : ∀ R : List Char → List Char → Prop,
        (Scalar.text s).InLowerCase R (.text t) ↔
          R (Text.lowerChars s.toList) (Text.lowerChars t.toList) := by
      simp [Scalar.InLowerCase]
    cases plain <;> cases hpair <;> cases hmode
    all_goals simp only [Operator.Relates, hsearch]

/-! ## The values that a row offers -/

section

variable {ctx : CompileContext} {c : Comparison} {plain negated : Operator} {p q : Predicate}
  {field : Field}

/-- Two comparisons that differ in the operator only read the same operands. -/
lemma exists_relates_both (hnames : c.Names ctx.family field)
    (hvalue : field.valueKind ≠ .unchecked ∧ field.valueKind ≠ .tags)
    (hp : (Rule.leaf { c with operator := plain }).compile ctx = .ok p)
    (hq : (Rule.leaf { c with operator := negated }).compile ctx = .ok q) :
    ∃ operands test, c.values.mapM (field.valueKind.operand? c.type ctx.timezone) = some operands ∧
      (∀ w ∈ operands, w.kind = field.valueKind) ∧ plain.Makes operands test ∧
      (∀ row : Row, p.holds row = true ↔ ∃ v, row.Offers field v ∧ plain.Relates v operands) ∧
      ∀ row : Row, q.holds row = true ↔ ∃ v, row.Offers field v ∧ negated.Relates v operands := by
  obtain ⟨operands, test, hread, hkinds, hmakes, hplain⟩ :=
    Comparison.exists_relates (c := { c with operator := plain }) hnames hvalue hp
  obtain ⟨operands', -, hread', -, -, hnegated⟩ :=
    Comparison.exists_relates (c := { c with operator := negated }) hnames hvalue hq
  obtain rfl : operands' = operands := Option.some.inj (hread'.symm.trans hread)
  exact ⟨operands', test, hread, hkinds, hmakes, hplain, hnegated⟩

/-- Where one value is offered, and it is no date, the plain and the negated comparison say opposite
things. -/
lemma holds_negated_of_offersOnly (hpair : plain.negation? = some negated)
    (hnames : c.Names ctx.family field)
    (hvalue : field.valueKind ≠ .unchecked ∧ field.valueKind ≠ .tags)
    (hp : (Rule.leaf { c with operator := plain }).compile ctx = .ok p)
    (hq : (Rule.leaf { c with operator := negated }).compile ctx = .ok q)
    (hdate : field.valueKind ≠ .date) {row : Row} (hrow : row.IsOfEntity) {v : Scalar}
    (hv : row.OffersOnly field v) : q.holds row = !p.holds row := by
  obtain ⟨operands, test, -, hkinds, hmakes, hplain, hnegated⟩ :=
    exists_relates_both hnames hvalue hp hq
  have hkind : v.kind = field.valueKind := hrow.kind_of_offers hv.offers
  have hopposite : negated.Relates v operands ↔ ¬plain.Relates v operands :=
    hmakes.relates_negated_iff hpair (fun w hw => hkind.trans (hkinds w hw).symm) (hkind ▸ hdate)
  have hp' : p.holds row = true ↔ plain.Relates v operands := by
    simp only [hplain, hv _, exists_eq_left]
  have hq' : q.holds row = true ↔ negated.Relates v operands := by
    simp only [hnegated, hv _, exists_eq_left]
  rw [Bool.eq_not_iff, ne_eq, Bool.eq_iff_iff, hp', hq', hopposite]
  exact not_iff_self

/-- Labels are wanted by equality and not wanted by its negation. -/
lemma holds_negated_of_tags (hpair : plain.negation? = some negated)
    (hnames : c.Names ctx.family (.revision .tags))
    (hp : (Rule.leaf { c with operator := plain }).compile ctx = .ok p)
    (hq : (Rule.leaf { c with operator := negated }).compile ctx = .ok q) (row : Row) :
    q.holds row = !p.holds row := by
  obtain ⟨test, rfl, hplain⟩ :=
    Comparison.exists_tested (c := { c with operator := plain }) hnames hp
  obtain ⟨test', rfl, hnegated⟩ :=
    Comparison.exists_tested (c := { c with operator := negated }) hnames hq
  change Comparison.Tested _ _ .tags _ at hplain hnegated
  rw [Predicate.holds_compare, Predicate.holds_compare]
  cases hplain with
  | tagsAny hoperator hvalues =>
    obtain rfl : plain = .equal := hoperator
    cases hpair
    cases hnegated with
    | tagsAny hoperator hvalues => cases hoperator
    | tagsNone hoperator hvalues => rfl
    | value hread hkinds hmakes => exact absurd rfl (hmakes.isValue hkinds).2
  | tagsNone hoperator hvalues =>
    obtain rfl : plain = .notEqual := hoperator
    cases hpair
  | value hread hkinds hmakes => exact absurd rfl (hmakes.isValue hkinds).2

/-- Rows of revisions offer one value of a core field that holds a text or the status. -/
lemma exists_offersOnly_row (hcore : field.IsCore)
    (hkind : field.valueKind = .text ∨ field.valueKind = .status) (r : Revision) (i : Iteration) :
    ∃ v, (i.row r).OffersOnly field v := by
  obtain ⟨v, hv⟩ : ∃ v, field.Holds r i v := by
    cases field with
    | dynamic owner kind name => exact absurd rfl (hcore owner kind name)
    | master f => cases f <;> first | exact ⟨_, rfl⟩ | simp [Field.valueKind] at hkind
    | revision f => cases f <;> first | exact ⟨_, rfl⟩ | simp [Field.valueKind] at hkind
    | author f => cases f <;> exact ⟨_, rfl⟩
  exact ⟨v, (Row.offers_row_iff.2 hv).offersOnly hcore⟩

/-! ## Attributes -/

/-- How a comparison `p` and its negation `q` share the attributes that a row shows of a field: each
wants one for itself, of which it asks the same or the opposite. -/
structure SplitAttributes (row : Row) (field : Field) (asks : Scalar → Prop) (p q : Predicate) :
    Prop where
  plain_iff : p.holds row = true ↔ ∃ v, row.Shows field v ∧ asks v
  negated_iff : q.holds row = true ↔ ∃ v, row.Shows field v ∧ ¬asks v
  neither_iff : (p.holds row = false ∧ q.holds row = false) ↔ ¬∃ v, row.Shows field v
  /-- Exactly one holds. -/
  one_iff : q.holds row = !p.holds row ↔ (∃ v, row.Shows field v) ∧
    ∀ v w, row.Shows field v → row.Shows field w → (asks v ↔ asks w)
  both_iff : (p.holds row = true ∧ q.holds row = true) ↔
    ∃ v w, row.Shows field v ∧ asks v ∧ row.Shows field w ∧ ¬asks w

/-- It is enough that each holds when some attribute answers to it. -/
lemma splitAttributes_of_iff {row : Row} {asks : Scalar → Prop}
    (hp : p.holds row = true ↔ ∃ v, row.Shows field v ∧ asks v)
    (hq : q.holds row = true ↔ ∃ v, row.Shows field v ∧ ¬asks v) :
    SplitAttributes row field asks p q where
  plain_iff := hp
  negated_iff := hq
  neither_iff := by
    rw [← Bool.not_eq_true, ← Bool.not_eq_true, hp, hq]
    constructor
    · rintro ⟨hnone, hnone'⟩ ⟨v, hv⟩
      by_cases hasks : asks v
      · exact hnone ⟨v, hv, hasks⟩
      · exact hnone' ⟨v, hv, hasks⟩
    · intro hnone
      exact ⟨fun ⟨v, hv, _⟩ => hnone ⟨v, hv⟩, fun ⟨v, hv, _⟩ => hnone ⟨v, hv⟩⟩
  one_iff := by
    rw [Bool.eq_not_iff, ne_eq, Bool.eq_iff_iff, hp, hq]
    constructor
    · intro hone
      refine ⟨?_, fun v w hv hw => ⟨fun hasks => ?_, fun hasks => ?_⟩⟩
      · by_contra hnone
        exact hone (iff_of_false (fun ⟨v, hv, _⟩ => hnone ⟨v, hv⟩) fun ⟨v, hv, _⟩ => hnone ⟨v, hv⟩)
      · by_contra hw'
        exact hone (iff_of_true ⟨w, hw, hw'⟩ ⟨v, hv, hasks⟩)
      · by_contra hv'
        exact hone (iff_of_true ⟨v, hv, hv'⟩ ⟨w, hw, hasks⟩)
    · rintro ⟨⟨v, hv⟩, hagree⟩ hsame
      by_cases hasks : asks v
      · obtain ⟨w, hw, hw'⟩ := hsame.2 ⟨v, hv, hasks⟩
        exact hw' ((hagree v w hv hw).1 hasks)
      · obtain ⟨w, hw, hw'⟩ := hsame.1 ⟨v, hv, hasks⟩
        exact hasks ((hagree v w hv hw).2 hw')
  both_iff := by
    rw [hp, hq]
    constructor
    · rintro ⟨⟨v, hv, hasks⟩, w, hw, hw'⟩
      exact ⟨v, w, hv, hasks, hw, hw'⟩
    · rintro ⟨v, w, hv, hasks, hw, hw'⟩
      exact ⟨⟨v, hv, hasks⟩, w, hw, hw'⟩

/-- A field that is an attribute is not looked at as labels are, or not at all. -/
lemma valueKind_dynamic_ne (owner : Family) (kind : AttributeKind) (name : String) :
    (Field.dynamic owner kind name).valueKind ≠ .unchecked ∧
      (Field.dynamic owner kind name).valueKind ≠ .tags := by
  cases kind <;> exact ⟨nofun, nofun⟩

/-- A comparison of attributes and its negation share them, unless they are dates. -/
lemma exists_splitAttributes (hpair : plain.negation? = some negated) {owner : Family}
    {kind : AttributeKind} {name : String}
    (hnames : c.Names ctx.family (.dynamic owner kind name)) (hdate : kind ≠ .date)
    (hp : (Rule.leaf { c with operator := plain }).compile ctx = .ok p)
    (hq : (Rule.leaf { c with operator := negated }).compile ctx = .ok q) :
    ∃ operands, c.values.mapM (kind.valueKind.operand? c.type ctx.timezone) = some operands ∧
      ∀ row : Row, row.IsOfEntity →
        SplitAttributes row (.dynamic owner kind name) (plain.Relates · operands) p q := by
  obtain ⟨operands, test, hread, hkinds, hmakes, hplain, hnegated⟩ :=
    exists_relates_both hnames (valueKind_dynamic_ne owner kind name) hp hq
  have hdate' : (Field.dynamic owner kind name).valueKind ≠ .date := by
    cases kind <;> first | exact absurd rfl hdate | nofun
  refine ⟨operands, hread, fun row hrow => splitAttributes_of_iff ?_ ?_⟩
  · simp only [hplain, Row.offers_dynamic_iff]
  · rw [hnegated]
    simp only [Row.offers_dynamic_iff]
    refine exists_congr fun v => and_congr_right fun hv => ?_
    have hkind := hrow.kind_of_shows hv
    exact hmakes.relates_negated_iff hpair (fun w hw => hkind.trans (hkinds w hw).symm)
      (hkind ▸ hdate')

/-! ## Dates -/

/-- How a comparison `p` for the day that begins at `start` and its negation `q` share the dates
that rows offer of a field: neither holds where there is none, and both hold within the day. -/
structure OverlapOnDates (ctx : CompileContext) (field : Field) (start stop : Instant)
    (p q : Predicate) : Prop where
  /-- Where no date is offered, no comparison of the field holds, whatever its operator. -/
  neither : ∀ row : Row, (∀ v, ¬row.Offers field v) → ∀ (other : Comparison) (p' : Predicate),
    other.Names ctx.family field → (Rule.leaf other).compile ctx = .ok p' → p'.holds row = false
  either : ∀ row : Row, row.IsOfEntity → (∃ v, row.Offers field v) →
    p.holds row = true ∨ q.holds row = true
  /-- A core field has no other date beside the one offered. -/
  both_iff : ∀ (row : Row) (t : Instant), row.Offers field (.date t) →
    (field.IsCore ∨ ∀ v, row.Offers field v → v = .date t) →
      ((p.holds row = true ∧ q.holds row = true) ↔ start < t ∧ t < stop)

/-- An operator that has a negation and makes a test of dates is equality, of the day that begins at
the first operand. -/
lemma eq_equal_of_makes_date (hpair : plain.negation? = some negated) {operands : List Scalar}
    {test : ValueTest} (hmakes : plain.Makes operands test)
    (hkinds : ∀ w ∈ operands, w.kind = .date) :
    plain = .equal ∧ negated = .notEqual ∧
      ∃ start stop rest, operands = .date start :: rest ∧ start.nextDay? = some stop := by
  cases hmakes with
  | day hstop =>
    cases hpair
    exact ⟨rfl, rfl, _, _, _, rfl, hstop⟩
  | equal hkind => exact absurd (hkinds _ List.mem_cons_self) hkind
  | notEqual => cases hpair
  | range hkind => cases hpair
  | ordering hkind htest => cases plain <;> cases hpair <;> cases htest
  | like hmode => cases hkinds _ List.mem_cons_self

/-- What is asked of one date by the plain operator and by its negation. -/
lemma relates_date_iff {start stop t : Instant} {rest : List Scalar}
    (hstop : start.nextDay? = some stop) :
    (Operator.equal.Relates (.date t) (.date start :: rest) ↔ start ≤ t ∧ t < stop) ∧
      (Operator.notEqual.Relates (.date t) (.date start :: rest) ↔ t ≠ start) := by
  simp [Operator.Relates, Scalar.FallsOn, Scalar.Equals, hstop]

/-- An instant comes strictly after another when it is not before it and not the same. -/
lemma Instant.lt_iff_le_and_ne {s t : Instant} : s < t ↔ s ≤ t ∧ t ≠ s := by
  rw [ne_eq, ← Instant.rank_inj]
  change s.rank < t.rank ↔ s.rank ≤ t.rank ∧ ¬t.rank = s.rank
  omega

/-- A comparison of a date field with a day and its negation overlap within that day. -/
lemma exists_overlapOnDates (hpair : plain.negation? = some negated)
    (hnames : c.Names ctx.family field) (hdate : field.valueKind = .date)
    (hp : (Rule.leaf { c with operator := plain }).compile ctx = .ok p)
    (hq : (Rule.leaf { c with operator := negated }).compile ctx = .ok q) :
    ∃ operand start stop, c.values.head? = some operand ∧
      Calendar.readOperand? ctx.timezone operand = some start ∧ start.nextDay? = some stop ∧
      OverlapOnDates ctx field start stop p q := by
  have hvalue : field.valueKind ≠ .unchecked ∧ field.valueKind ≠ .tags := by
    rw [hdate]
    exact ⟨nofun, nofun⟩
  obtain ⟨operands, test, hread, hkinds, hmakes, hplain, hnegated⟩ :=
    exists_relates_both hnames hvalue hp hq
  rw [hdate] at hkinds
  obtain ⟨rfl, rfl, start, stop, rest, rfl, hstop⟩ := eq_equal_of_makes_date hpair hmakes hkinds
  obtain ⟨operand, others, hoperand, -, hvalues⟩ :=
    List.forall₂_cons_right_iff.1 (forall₂_of_mapM_eq_some hread)
  rw [hdate] at hoperand
  refine ⟨operand, start, stop, by rw [hvalues]; rfl, readOperand?_of_read?_eq_date hoperand, hstop,
    ?_, ?_, ?_⟩
  · intro row hnone other p' hnames' hp'
    obtain ⟨_, _, -, -, -, hother⟩ := Comparison.exists_relates hnames' hvalue hp'
    rw [← Bool.not_eq_true, hother]
    rintro ⟨v, hv, -⟩
    exact hnone v hv
  · rintro row hrow ⟨v, hv⟩
    obtain ⟨t, rfl⟩ := Scalar.exists_date_of_kind ((hrow.kind_of_offers hv).trans hdate)
    rw [hplain, hnegated]
    by_cases hsame : t = start
    · subst hsame
      refine Or.inl ⟨_, hv, (relates_date_iff hstop).1.2 ⟨?_, Instant.lt_of_nextDay? hstop⟩⟩
      exact Int.le_refl t.rank
    · exact Or.inr ⟨_, hv, (relates_date_iff hstop).2.2 hsame⟩
  · intro row t ht halone
    have hoffers : row.OffersOnly field (.date t) := by
      rcases halone with hcore | halone
      · exact ht.offersOnly hcore
      · exact fun v => ⟨halone v, fun h => h ▸ ht⟩
    simp only [hplain, hnegated, hoffers _, exists_eq_left, relates_date_iff hstop,
      Instant.lt_iff_le_and_ne (s := start)]
    tauto

end

/-- The two comparisons of a field by an operator and by its negation, if both compile, relate as
follows. Of a core field that holds a text, of the status and of the tags, exactly one of them holds
in every row of a revision. Of attributes that are no dates, each holds when some attribute of that
name and kind answers to it: none if there is no such attribute, both if two of them differ in what
is asked, and otherwise exactly one.

Of a date that a row offers, one of them holds at least, and both exactly when it lies strictly
after the operand and before the operand of the next day. Where no date is offered, because it is
unset or because it is read from the last iteration and the row is that of another, no comparison of
the field holds. -/
theorem plain_and_negated {ctx : CompileContext} {c : Comparison} {plain negated : Operator}
    (hpair : plain.negation? = some negated) {p q : Predicate}
    (hp : (Rule.leaf { c with operator := plain }).compile ctx = .ok p)
    (hq : (Rule.leaf { c with operator := negated }).compile ctx = .ok q) :
    ∃ field, c.Names ctx.family field ∧
      ((field.IsCore ∧ field.valueKind = .text) ∨ field = .revision .status ∨
          field = .revision .tags →
        ∀ (r : Revision) (i : Iteration), q.holds (i.row r) = !p.holds (i.row r)) ∧
      (field.valueKind = .date →
        ∃ operand start stop, c.values.head? = some operand ∧
          Calendar.readOperand? ctx.timezone operand = some start ∧ start.nextDay? = some stop ∧
          OverlapOnDates ctx field start stop p q) ∧
      ∀ owner kind name, field = .dynamic owner kind name → kind ≠ .date →
        ∃ operands, c.values.mapM (kind.valueKind.operand? c.type ctx.timezone) = some operands ∧
          ∀ row : Row, row.IsOfEntity →
            SplitAttributes row field (plain.Relates · operands) p q := by
  obtain ⟨field, hnames⟩ : ∃ field, c.Names ctx.family field := by
    have hcompile := hp
    rw [Rule.compile] at hcompile
    obtain ⟨field, -, hname, hfamily, -⟩ := Comparison.compile_eq_ok_iff.1 hcompile
    exact ⟨field, hname, hfamily⟩
  refine ⟨field, hnames, ?_, ?_, ?_⟩
  · rintro (⟨hcore, htext⟩ | rfl | rfl) r i
    · obtain ⟨v, hv⟩ := exists_offersOnly_row hcore (Or.inl htext) r i
      refine holds_negated_of_offersOnly hpair hnames ?_ hp hq ?_ (.revision r i) hv
      all_goals simp [htext]
    · have hcore : (Field.revision .status).IsCore := by
        intro owner kind name h
        cases h
      obtain ⟨v, hv⟩ := exists_offersOnly_row hcore (Or.inr rfl) r i
      refine holds_negated_of_offersOnly hpair hnames ?_ hp hq ?_ (.revision r i) hv
      all_goals decide
    · exact holds_negated_of_tags hpair hnames hp hq (i.row r)
  · intro hdate
    exact exists_overlapOnDates hpair hnames hdate hp hq
  · rintro owner kind name rfl hdate
    exact exists_splitAttributes hpair hnames hdate hp hq

/-- An iteration that is red and blue at once. -/
def twoColours : Iteration :=
  ⟨1, none, none, [⟨"colour", .text "Infrared"⟩, ⟨"colour", .text "Blue"⟩]⟩

/-- A comparison of the colour with a text. -/
def colourComparison (operator : Operator) (text : String) : Comparison :=
  ⟨"attr-TEXT.colour", operator, [text], .string⟩

/-- Of an iteration with two colours, one of which contains a text, it is true that the colour
contains the text and that it does not. -/
theorem twoColours_split :
    ∃ p q, (Rule.leaf (colourComparison .contains "RED")).compile ⟨.revision, Offset.zero⟩ = .ok p ∧
      (Rule.leaf (colourComparison .notContains "RED")).compile ⟨.revision, Offset.zero⟩ = .ok q ∧
      p.holds (twoColours.row default) = true ∧ q.holds (twoColours.row default) = true := by
  have hname : Field.ofName? "attr-TEXT.colour" = some (.dynamic .revision .text "colour") := rfl
  have hp : (Rule.leaf (colourComparison .contains "RED")).compile ⟨.revision, Offset.zero⟩ =
      .ok (.compare (.dynamic .revision .text "colour") (.like .contains "red" false)) := rfl
  have hq : (Rule.leaf (colourComparison .notContains "RED")).compile ⟨.revision, Offset.zero⟩ =
      .ok (.compare (.dynamic .revision .text "colour") (.like .contains "red" true)) := rfl
  refine ⟨_, _, hp, hq, ?_⟩
  obtain ⟨field, hnames, -, -, hattribute⟩ :=
    plain_and_negated (c := colourComparison .equal "RED")
      (rfl : Operator.contains.negation? = some .notContains) hp hq
  obtain rfl : Field.dynamic .revision .text "colour" = field :=
    Option.some.inj (hname.symm.trans hnames.1)
  obtain ⟨operands, hread, hsplit⟩ := hattribute _ _ _ rfl nofun
  obtain rfl : [Scalar.text "RED"] = operands := Option.some.inj hread
  refine (hsplit _ (.revision default twoColours)).both_iff.2
    ⟨.text "Infrared", .text "Blue", ?_, ?_, ?_, ?_⟩
  · exact ⟨_, rfl, ⟨"colour", .text "Infrared"⟩, by simp [twoColours], rfl, rfl⟩
  · exact ⟨"RED", "Infrared", rfl, rfl, by decide +kernel⟩
  · exact ⟨_, rfl, ⟨"colour", .text "Blue"⟩, by simp [twoColours], rfl, rfl⟩
  · rintro ⟨n, s, hn, hs, hfound⟩
    cases hn
    cases hs
    exact absurd hfound (by decide +kernel)

/-- Noon on the first of March 2024. -/
def noon : Instant :=
  (Instant.of? 739251 43200 0).get (by decide)

/-- A revision that was checked in at noon and has been drafted again. -/
def draftedAgain : Revision :=
  firstVersion "home" "bell" [⟨1, some noon, none, []⟩, ⟨2, none, none, []⟩]

/-- A comparison of the check-in date with that day. -/
def checkInComparison (operator : Operator) : Comparison :=
  ⟨"pr.checkInDate", operator, ["2024-03-01"], .date⟩

/-- In the row of the iteration that was checked in, the check-in date is set and lies within the
day in question, but neither equality nor its negation holds, since there is a later iteration. -/
theorem neither_holds_of_earlier_checkIn :
    ∃ i ∈ draftedAgain.iterations, ∃ p q,
      (i.row draftedAgain).value? (.revision .checkInDate) = some (.date noon) ∧
      (Rule.leaf (checkInComparison .equal)).compile ⟨.revision, Offset.zero⟩ = .ok p ∧
      (Rule.leaf (checkInComparison .notEqual)).compile ⟨.revision, Offset.zero⟩ = .ok q ∧
      (∃ start stop, Calendar.readOperand? Offset.zero "2024-03-01" = some start ∧
        start.nextDay? = some stop ∧ start < noon ∧ noon < stop) ∧
      p.holds (i.row draftedAgain) = false ∧ q.holds (i.row draftedAgain) = false := by
  have hp : (Rule.leaf (checkInComparison .equal)).compile ⟨.revision, Offset.zero⟩ =
      .ok (.compare (.revision .checkInDate)
        (.dayWindow ⟨739251, 0, 0, by decide, by decide, by decide⟩
          ⟨739252, 0, 0, by decide, by decide, by decide⟩)) := rfl
  have hq : (Rule.leaf (checkInComparison .notEqual)).compile ⟨.revision, Offset.zero⟩ =
      .ok (.compare (.revision .checkInDate)
        (.notEqual (.date ⟨739251, 0, 0, by decide, by decide, by decide⟩))) := rfl
  refine ⟨⟨1, some noon, none, []⟩, List.mem_cons_self, _, _, rfl, hp, hq, ⟨_, _, rfl, rfl, ?_, ?_⟩,
    ?_, ?_⟩
  all_goals decide +kernel

end PartQuery
