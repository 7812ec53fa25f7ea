import PartQuery.Proofs.Json.Measured
import PartQuery.Proofs.Leaves

/-!
# The order of dates and of numbers

Dates and numbers have a place in the order of their kind, and two of them stand to each other as
their places do. Only the values that are not numbers have no place. No operand is one of them, so
among values with a place the operators that ask for an order fit together as one would expect.

What rules ask is less regular, since each comparison looks for a value of its own among those that
a row offers. To look for one of two sorts of values is to look for the one sort or for the other,
whatever is offered (`Rule.AsksFor.or`). But to look for a value between two bounds is more than to
look for one above the lower bound and for one below the upper, which may be another: it is the same
only if the row offers no more than one value, as it does of a core field.

The main statement is `operators_follow_order`.
-/

namespace PartQuery

/-! ## Places -/

namespace Scalar

/-- A date has a place in time, and a number has one among the numbers. -/
inductive HasPlace : Scalar → ValueKind → Int → Prop
  | date (t : Instant) : HasPlace (.date t) .date t.rank
  | number {x : Binary64} (h : x.isNaN = false) : HasPlace (.number x) .number x.rank

/-- Of an ordered kind, whatever can be compared with has a place. -/
lemma exists_hasPlace {v : Scalar} (hordered : v.kind.IsOrdered) (hcomparable : v.IsComparable) :
    ∃ n, v.HasPlace v.kind n := by
  cases v with
  | date t => exact ⟨_, .date t⟩
  | number x => exact ⟨_, .number hcomparable⟩
  | _ => rcases hordered with hkind | hkind <;> cases hkind

namespace HasPlace

variable {kind : ValueKind} {v w low high : Scalar} {l m n k : Int}

/-- What has a place is of that kind and can be compared with. -/
lemma kind_eq_and_isComparable (h : v.HasPlace kind n) : v.kind = kind ∧ v.IsComparable := by
  cases h with
  | date t => exact ⟨rfl, trivial⟩
  | number hx => exact ⟨rfl, hx⟩

/-- Values with a place are equal exactly when their places are. -/
lemma equals_iff (hv : v.HasPlace kind m) (hw : w.HasPlace kind n) : v.Equals w ↔ m = n := by
  cases hv with
  | date s =>
    cases hw with
    | date t => simp [Equals, Instant.rank_inj]
  | number hx =>
    cases hw with
    | number hy => simp [Equals, hx, hy]

/-- A value is below another exactly when its place is. -/
lemma below_iff (hv : v.HasPlace kind m) (hw : w.HasPlace kind n) : v.Below w ↔ m < n := by
  cases hv with
  | date s =>
    cases hw with
    | date t => exact Iff.rfl
  | number hx =>
    cases hw with
    | number hy => simp [Below, hx, hy]

/-- A value is at most another exactly when its place is. -/
lemma atMost_iff (hv : v.HasPlace kind m) (hw : w.HasPlace kind n) : v.AtMost w ↔ m ≤ n := by
  cases hv with
  | date s =>
    cases hw with
    | date t => exact Iff.rfl
  | number hx =>
    cases hw with
    | number hy => simp [AtMost, hx, hy]

/-- Two values that are not equal are one below the other. -/
lemma not_equals_iff (hv : v.HasPlace kind m) (hw : w.HasPlace kind n) :
    ¬v.Equals w ↔ v.Below w ∨ w.Below v := by
  rw [hv.equals_iff hw, hv.below_iff hw, hw.below_iff hv]
  omega

/-- What is at most a value is below it or equals it. -/
lemma atMost_iff_below_or_equals (hv : v.HasPlace kind m) (hw : w.HasPlace kind n) :
    v.AtMost w ↔ v.Below w ∨ v.Equals w := by
  rw [hv.atMost_iff hw, hv.below_iff hw, hv.equals_iff hw]
  omega

/-- What a value is at most is above it or equals it. -/
lemma atMost_iff_below_or_equals' (hv : v.HasPlace kind m) (hw : w.HasPlace kind n) :
    w.AtMost v ↔ w.Below v ∨ v.Equals w := by
  rw [hw.atMost_iff hv, hw.below_iff hv, hv.equals_iff hw]
  omega

/-- Nothing lies between bounds in the wrong order. -/
lemma not_between (hlow : low.HasPlace kind l) (hhigh : high.HasPlace kind k)
    (hwrong : high.Below low) (hv : v.HasPlace kind n) : ¬(low.AtMost v ∧ v.AtMost high) := by
  rw [hhigh.below_iff hlow] at hwrong
  rw [hlow.atMost_iff hv, hv.atMost_iff hhigh]
  omega

end HasPlace

/-- Only what has a place is below anything, if that has one. -/
lemma Below.exists_hasPlace {kind : ValueKind} {v w : Scalar} {n : Int} (h : v.Below w)
    (hw : w.HasPlace kind n) : ∃ m, v.HasPlace kind m := by
  cases hw with
  | date t =>
    cases v with
    | date s => exact ⟨_, .date s⟩
    | _ => exact h.elim
  | number hy =>
    cases v with
    | number x => exact ⟨_, .number h.1⟩
    | _ => exact h.elim

/-- Only what has a place is above anything, if that has one. -/
lemma Below.exists_hasPlace' {kind : ValueKind} {v w : Scalar} {m : Int} (h : v.Below w)
    (hv : v.HasPlace kind m) : ∃ n, w.HasPlace kind n := by
  cases hv with
  | date s =>
    cases w with
    | date t => exact ⟨_, .date t⟩
    | _ => exact h.elim
  | number hx =>
    cases w with
    | number y => exact ⟨_, .number h.2.1⟩
    | _ => exact h.elim

/-- A date falls on the day from an instant to the same time of the next day when it is at least the
one and below the other. -/
lemma fallsOn_iff {v : Scalar} {start stop : Instant} (hstop : start.nextDay? = some stop) :
    v.FallsOn start ↔ (Scalar.date start).AtMost v ∧ v.Below (.date stop) := by
  cases v <;> simp [FallsOn, AtMost, Below, hstop]

end Scalar

/-! ## Rows in which numbers are numbers -/

namespace Row

/-- A row is that of a revision or of path data, in which numbers are numbers. -/
inductive IsStored : Row → Prop
  | revision (r : Revision) {i : Iteration} (h : ∀ a ∈ i.attributes, a.value.IsMeasured) :
      IsStored (i.row r)
  | pathData (d : PathData) {i : PathIteration} (h : ∀ a ∈ i.attributes, a.value.IsMeasured) :
      IsStored (i.row d)

variable {row : Row} {field : Field} {v : Scalar}

/-- Stored rows are rows of entities. -/
lemma IsStored.isOfEntity (hrow : row.IsStored) : row.IsOfEntity := by
  cases hrow with
  | revision r h => exact .revision r _
  | pathData d h => exact .pathData d _

/-- The attributes of a stored row hold no values that are not numbers. -/
lemma IsStored.isMeasured (hrow : row.IsStored) {owner : Family} {attributes : List Attribute}
    (hattributes : row.attributes? owner = some attributes) :
    ∀ a ∈ attributes, a.value.IsMeasured := by
  cases hrow with
  | revision r h =>
    cases owner with
    | revision =>
      cases hattributes
      exact h
    | pathData => cases hattributes
  | pathData d h =>
    cases owner with
    | revision => cases hattributes
    | pathData =>
      cases hattributes
      exact h

end Row

/-- An attribute that shows a number holds it. -/
lemma AttributeValue.eq_number_of_shows {a : AttributeValue} {x : Binary64}
    (h : a.Shows .number (.number x)) : a = .number x := by
  cases a with
  | number y => exact congrArg _ (Scalar.number.inj h).symm
  | partNumber part => cases part <;> exact h.elim
  | _ => exact h.elim

/-- Numbers are held by attributes only. -/
lemma Field.exists_dynamic_of_number {field : Field} (hkind : field.valueKind = .number) :
    ∃ owner name, field = .dynamic owner .number name := by
  cases field with
  | dynamic owner kind name => cases kind <;> first | exact ⟨owner, name, rfl⟩ | cases hkind
  | master f => cases f <;> cases hkind
  | revision f => cases f <;> cases hkind
  | author f => cases hkind

namespace Row

variable {row : Row} {field : Field} {v : Scalar}

/-- Whatever a stored row offers can be compared with. -/
lemma IsStored.isComparable_of_offers (hrow : row.IsStored) (h : row.Offers field v) :
    v.IsComparable := by
  cases v with
  | number x =>
    obtain ⟨owner, name, rfl⟩ :=
      Field.exists_dynamic_of_number (hrow.isOfEntity.kind_of_offers h).symm
    obtain ⟨attributes, hattributes, a, ha, -, hvalue⟩ := offers_dynamic_iff.1 h
    exact hrow.isMeasured hattributes a ha x
      (AttributeValue.eq_number_of_shows (scalarOf?_eq_some_iff.1 hvalue))
  | _ => trivial

/-- Whatever a stored row offers of dates or of numbers has a place. -/
lemma IsStored.exists_hasPlace (hrow : row.IsStored) (hordered : field.valueKind.IsOrdered)
    (h : row.Offers field v) : ∃ n, v.HasPlace field.valueKind n := by
  have hkind : v.kind = field.valueKind := hrow.isOfEntity.kind_of_offers h
  rw [← hkind] at hordered ⊢
  exact Scalar.exists_hasPlace hordered (hrow.isComparable_of_offers h)

end Row

/-! ## Rules that look for a value -/

namespace Rule

/-- A rule compiles, and holds of the rows that offer a value of some sort. -/
structure AsksFor (ctx : CompileContext) (field : Field) (R : Scalar → Prop) (rule : Rule) :
    Prop where
  compiles : rule.Compiles ctx
  holdsIn_iff : ∀ row : Row, rule.HoldsIn ctx row ↔ ∃ v, row.Offers field v ∧ R v

/-- Two rules compile, and hold of the same stored rows. -/
structure SameAs (ctx : CompileContext) (rule other : Rule) : Prop where
  compiles : rule.Compiles ctx
  compiles_other : other.Compiles ctx
  holdsIn_iff : ∀ row : Row, row.IsStored → (rule.HoldsIn ctx row ↔ other.HoldsIn ctx row)

variable {ctx : CompileContext} {field : Field} {R S : Scalar → Prop} {rule other : Rule}

/-- To look for one of two sorts of values is to look for the one or for the other. -/
lemma AsksFor.or (h : rule.AsksFor ctx field R) (h' : other.AsksFor ctx field S) :
    (group .or [rule, other]).AsksFor ctx field fun v => R v ∨ S v := by
  have hrules : ∀ member ∈ [rule, other], member.Compiles ctx := by
    simp [h.compiles, h'.compiles]
  refine ⟨compiles_group_iff.2 hrules, fun row => ?_⟩
  rw [holdsIn_group_iff hrules]
  simp [Connective.Joins, h.holdsIn_iff, h'.holdsIn_iff, and_or_left, exists_or]

/-- Two rules joined by `and` compile and look each for a value. -/
lemma AsksFor.and (h : rule.AsksFor ctx field R) (h' : other.AsksFor ctx field S) :
    (group .and [rule, other]).Compiles ctx ∧ ∀ row : Row,
      (group .and [rule, other]).HoldsIn ctx row ↔
        (∃ v, row.Offers field v ∧ R v) ∧ ∃ v, row.Offers field v ∧ S v := by
  have hrules : ∀ member ∈ [rule, other], member.Compiles ctx := by
    simp [h.compiles, h'.compiles]
  refine ⟨compiles_group_iff.2 hrules, fun row => ?_⟩
  rw [holdsIn_group_iff hrules]
  simp [Connective.Joins, h.holdsIn_iff, h'.holdsIn_iff]

/-- Rules are the same if they look for the same among the values that stored rows offer. -/
lemma AsksFor.sameAs (h : rule.AsksFor ctx field R) (h' : other.AsksFor ctx field S)
    (hordered : field.valueKind.IsOrdered)
    (hsame : ∀ v n, v.HasPlace field.valueKind n → (R v ↔ S v)) : rule.SameAs ctx other := by
  refine ⟨h.compiles, h'.compiles, fun row hrow => ?_⟩
  rw [h.holdsIn_iff, h'.holdsIn_iff]
  refine exists_congr fun v => and_congr_right fun hv => ?_
  obtain ⟨n, hn⟩ := hrow.exists_hasPlace hordered hv
  exact hsame v n hn

end Rule

/-! ## Comparisons by order -/

namespace Comparison

/-- A comparison is one of a field of dates or of numbers with operands that are read as such. -/
structure Reads (c : Comparison) (ctx : CompileContext) (field : Field) (operands : List Scalar) :
    Prop where
  names : c.Names ctx.family field
  ordered : field.valueKind.IsOrdered
  takes : field.valueKind.Takes c.type
  read : c.values.mapM (c.type.read? ctx.timezone) = some operands

/-- A comparison made by another operator. -/
def asking (c : Comparison) (operator : Operator) : Rule :=
  .leaf { c with operator := operator }

/-- A comparison made with another operand. -/
def askingOf (c : Comparison) (operator : Operator) (operand : String) : Rule :=
  asking { c with values := [operand] } operator

namespace Reads

variable {c : Comparison} {ctx : CompileContext} {field : Field} {operands rest : List Scalar}
  {operator : Operator} {v : Scalar} {start : Instant}

/-- The types declared of dates and of numbers are those that are ordered. -/
lemma type_eq (h : c.Reads ctx field operands) : c.type = .date ∨ c.type = .double := by
  have htakes := h.takes
  rcases h.ordered with hkind | hkind <;> rw [hkind] at htakes
  · exact Or.inl htakes
  · exact Or.inr htakes

/-- Operands are read by the declared type. -/
lemma operand?_eq (h : c.Reads ctx field operands) :
    field.valueKind.operand? c.type ctx.timezone = c.type.read? ctx.timezone := by
  rcases h.ordered with hkind | hkind <;> rw [hkind] <;> rfl

/-- Dates and numbers are looked at as measures. -/
lemma isMeasure (h : c.Reads ctx field operands) : field.valueKind.IsMeasure :=
  Or.inr h.ordered

/-- All operands have a place. -/
lemma exists_hasPlace (h : c.Reads ctx field operands) (hv : v ∈ operands) :
    ∃ n, v.HasPlace field.valueKind n := by
  have haccepts : accepts field.valueKind c.type = true :=
    (accepts_iff_takes h.isMeasure).2 h.takes
  obtain ⟨operand, -, hread⟩ := exists_left_of_mem_right (forall₂_of_mapM_eq_some h.read) hv
  have hkind : v.kind = field.valueKind := kind_eq_of_read? haccepts hread
  have hordered := h.ordered
  rw [← hkind] at hordered ⊢
  exact Scalar.exists_hasPlace hordered (OperandType.isComparable_of_read? hread)

/-- With another operator, the operands can still be read. -/
lemma not_hasUnreadable (h : c.Reads ctx field operands) :
    ¬HasUnreadable { c with operator := operator } ctx.timezone := by
  rw [hasUnreadable_iff, h.read]
  exact nofun

/-- There are as many operands as there are words for them. -/
lemma length_eq (h : c.Reads ctx field operands) : c.values.length = operands.length :=
  (forall₂_of_mapM_eq_some h.read).length_eq

/-- A comparison by an operator that is defined for the operands looks for a value in its relation
to them. -/
lemma asksFor (h : c.Reads ctx field operands) (operator : Operator)
    (hdefined : operator.IsDefinedFor c.type operands.length)
    (hday : ¬LacksDay { c with operator := operator } ctx.timezone field.valueKind) :
    (c.asking operator).AsksFor ctx field (operator.Relates · operands) := by
  rw [← h.length_eq] at hdefined
  have hjudged : Judged { c with operator := operator } ctx .accepted :=
    .ofField h.names (.measure h.isMeasure h.not_hasUnreadable ⟨h.takes, hdefined⟩ hday)
  obtain ⟨p, hp⟩ := hjudged.announces_compile
  rw [← Rule.compile] at hp
  have hvalue : field.valueKind ≠ .unchecked ∧ field.valueKind ≠ .tags := by
    rcases h.ordered with hkind | hkind <;> simp [hkind]
  obtain ⟨found, -, hread, -, -, hholds⟩ :=
    exists_relates (c := { c with operator := operator }) h.names hvalue hp
  rw [h.operand?_eq] at hread
  obtain rfl : found = operands := Option.some.inj (hread.symm.trans h.read)
  refine ⟨⟨p, hp⟩, fun row => ?_⟩
  exact (Rule.holdsIn_iff_holds hp).trans (hholds row)

/-- Only equality wants for a day. -/
lemma asksFor_of_ne (h : c.Reads ctx field operands) (operator : Operator)
    (hequal : operator ≠ .equal)
    (hdefined : operator.IsDefinedFor c.type operands.length) :
    (c.asking operator).AsksFor ctx field (operator.Relates · operands) :=
  h.asksFor operator hdefined fun hday => hequal hday.2.1

/-- Equality with a number looks for the number. -/
lemma asksFor_equal_of_number (h : c.Reads ctx field (v :: rest))
    (hnumber : field.valueKind = .number) :
    (c.asking .equal).AsksFor ctx field (·.Equals v) := by
  have hday : ¬LacksDay { c with operator := .equal } ctx.timezone field.valueKind := by
    rintro ⟨hdate, -⟩
    rw [hnumber] at hdate
    cases hdate
  have hequal : (c.asking .equal).AsksFor ctx field (Operator.equal.Relates · (v :: rest)) :=
    h.asksFor .equal (Nat.le_add_left 1 rest.length) hday
  obtain ⟨n, hplace⟩ := h.exists_hasPlace List.mem_cons_self
  rw [hnumber] at hplace
  cases hplace with
  | number hx => exact hequal

/-- Equality with a date wants for a day exactly when there is no next one. -/
lemma lacksDay_iff (h : c.Reads ctx field (.date start :: rest)) :
    LacksDay { c with operator := .equal } ctx.timezone field.valueKind ↔
      start.nextDay? = none := by
  obtain ⟨operand, others, hread, -, hvalues⟩ :=
    List.forall₂_cons_right_iff.1 (forall₂_of_mapM_eq_some h.read)
  have hstart := readOperand?_of_read?_eq_date hread
  obtain ⟨n, hplace⟩ := h.exists_hasPlace List.mem_cons_self
  rw [Instant.nextDay?_eq_none_iff]
  constructor
  · rintro ⟨-, -, operand', others', start', hvalues', hstart', hlast⟩
    obtain ⟨rfl, rfl⟩ := List.cons.inj (hvalues.symm.trans hvalues')
    obtain rfl : start = start' := Option.some.inj (hstart.symm.trans hstart')
    exact hlast
  · intro hlast
    refine ⟨?_, rfl, operand, others, start, hvalues, hstart, hlast⟩
    generalize field.valueKind = kind at hplace
    cases hplace
    rfl

/-- Equality with a date looks for the values from it on and before the same time of the next
day. -/
lemma asksFor_equal_of_date (h : c.Reads ctx field (.date start :: rest)) {stop : Instant}
    (hstop : start.nextDay? = some stop) :
    (c.asking .equal).AsksFor ctx field fun v =>
      (Scalar.date start).AtMost v ∧ v.Below (.date stop) := by
  have hday : ¬LacksDay { c with operator := .equal } ctx.timezone field.valueKind := by
    rw [h.lacksDay_iff, hstop]
    exact nofun
  have hequal : (c.asking .equal).AsksFor ctx field
      (Operator.equal.Relates · (.date start :: rest)) :=
    h.asksFor .equal (Nat.le_add_left 1 rest.length) hday
  refine ⟨hequal.compiles, fun row => ?_⟩
  rw [hequal.holdsIn_iff]
  exact exists_congr fun v => and_congr_right fun _ => Scalar.fallsOn_iff hstop

/-- Equality with a date of the last day does not compile. -/
lemma not_compiles_equal (h : c.Reads ctx field (.date start :: rest))
    (hlast : start.nextDay? = none) : ¬(c.asking .equal).Compiles ctx := by
  have hdefined : Operator.equal.IsDefinedFor c.type c.values.length := by
    rw [h.length_eq]
    exact Nat.le_add_left 1 rest.length
  have hjudged : Judged { c with operator := .equal } ctx .malformed :=
    .ofField h.names
      (.endless h.isMeasure h.not_hasUnreadable ⟨h.takes, hdefined⟩ (h.lacksDay_iff.2 hlast))
  have herror := hjudged.announces_compile
  rw [← Rule.compile] at herror
  rintro ⟨p, hp⟩
  cases hp.symm.trans herror

end Reads

end Comparison

/-! ## Rows with one value, and with two -/

namespace Row

variable {row : Row} {field : Field}

/-- A row offers no two values of a field. -/
def OffersAtMostOne (row : Row) (field : Field) : Prop :=
  ∀ v w, row.Offers field v → row.Offers field w → v = w

/-- No row offers two values of a core field. -/
lemma offersAtMostOne_of_isCore (hcore : field.IsCore) : row.OffersAtMostOne field :=
  fun _ _ hv hw => (((hv.offersOnly hcore) _).1 hw).symm

/-- Where no two values are offered, looking for two sorts of values is looking for one value of
both sorts. -/
lemma OffersAtMostOne.exists_and_iff (h : row.OffersAtMostOne field) {R S : Scalar → Prop} :
    (∃ v, row.Offers field v ∧ R v ∧ S v) ↔
      (∃ v, row.Offers field v ∧ R v) ∧ ∃ v, row.Offers field v ∧ S v := by
  constructor
  · rintro ⟨v, hv, hR, hS⟩
    exact ⟨⟨v, hv, hR⟩, v, hv, hS⟩
  · rintro ⟨⟨v, hv, hR⟩, w, hw, hS⟩
    obtain rfl := h v w hv hw
    exact ⟨v, hv, hR, hS⟩

/-- Some attribute shows a value that has a place, and nothing else. -/
lemma exists_attributeValue {kind : AttributeKind} {v : Scalar} {n : Int}
    (h : v.HasPlace kind.valueKind n) :
    ∃ a : AttributeValue, a.IsMeasured ∧ ∀ w, a.scalarOf? kind = some w ↔ w = v := by
  cases kind with
  | date =>
    cases h with
    | date t => exact ⟨.date t, nofun, fun w => scalarOf?_eq_some_iff⟩
  | number =>
    cases h with
    | @number x hx =>
      refine ⟨.number x, ?_, fun w => scalarOf?_eq_some_iff⟩
      intro y hy
      cases hy
      exact hx
  | _ => cases h

/-- Stored rows may have any attributes that hold no values that are not numbers. -/
lemma exists_isStored (owner : Family) {attributes : List Attribute}
    (h : ∀ a ∈ attributes, a.value.IsMeasured) :
    ∃ row : Row, row.IsStored ∧ row.attributes? owner = some attributes := by
  cases owner with
  | revision => exact ⟨_, .revision default (i := ⟨1, none, none, attributes⟩) h, rfl⟩
  | pathData => exact ⟨_, .pathData default (i := ⟨1, "", attributes⟩) h, rfl⟩

/-- Some stored row offers two given values of a field that is an attribute. -/
lemma exists_offers_two (hfield : ¬field.IsCore) {s t : Scalar} {m n : Int}
    (hs : s.HasPlace field.valueKind m) (ht : t.HasPlace field.valueKind n) :
    ∃ row : Row, row.IsStored ∧ ∀ v, row.Offers field v ↔ v = s ∨ v = t := by
  obtain ⟨owner, kind, name, rfl⟩ : ∃ owner kind name, field = .dynamic owner kind name := by
    simpa [Field.IsCore] using hfield
  obtain ⟨a, ha, hshows⟩ := exists_attributeValue hs
  obtain ⟨b, hb, hshows'⟩ := exists_attributeValue ht
  have hboth : ∀ held ∈ [⟨name, a⟩, ⟨name, b⟩], Attribute.value held |>.IsMeasured := by
    simp [ha, hb]
  obtain ⟨row, hrow, hattributes⟩ := exists_isStored owner hboth
  refine ⟨row, hrow, fun v => ?_⟩
  rw [offers_dynamic_iff]
  simp [Shows, hattributes, hshows, hshows']

variable {low high : Scalar} {l k : Int}

/-- If a stored row offers a value above one bound and a value below another but none between them,
something lies below the first bound and something above the second. -/
lemma IsStored.exists_outside (hrow : row.IsStored) (hordered : field.valueKind.IsOrdered)
    (hlow : low.HasPlace field.valueKind l) (hhigh : high.HasPlace field.valueKind k)
    (habove : ∃ v, row.Offers field v ∧ low.AtMost v)
    (hbelow : ∃ v, row.Offers field v ∧ v.AtMost high)
    (hnone : ¬∃ v, row.Offers field v ∧ low.AtMost v ∧ v.AtMost high) :
    ∃ s t : Scalar, s.Below low ∧ high.Below t := by
  obtain ⟨t, ht, hlowt⟩ := habove
  obtain ⟨s, hs, hshigh⟩ := hbelow
  obtain ⟨m, hm⟩ := hrow.exists_hasPlace hordered hs
  obtain ⟨n, hn⟩ := hrow.exists_hasPlace hordered ht
  have hs' : ¬low.AtMost s := fun hle => hnone ⟨s, hs, hle, hshigh⟩
  have ht' : ¬t.AtMost high := fun hle => hnone ⟨t, ht, hlowt, hle⟩
  rw [hlow.atMost_iff hm] at hs'
  rw [hn.atMost_iff hhigh] at ht'
  exact ⟨s, t, (hm.below_iff hlow).2 (not_le.1 hs'), (hhigh.below_iff hn).2 (not_le.1 ht')⟩

/-- If something lies below one bound and something above another, some stored row offers a value
above the first and a value below the second but none between them. -/
lemma exists_isStored_outside (hfield : ¬field.IsCore) (hlow : low.HasPlace field.valueKind l)
    (hhigh : high.HasPlace field.valueKind k) (hle : low.AtMost high) {s t : Scalar}
    (hs : s.Below low) (ht : high.Below t) :
    ∃ row : Row, row.IsStored ∧ (∃ v, row.Offers field v ∧ low.AtMost v) ∧
      (∃ v, row.Offers field v ∧ v.AtMost high) ∧
      ¬∃ v, row.Offers field v ∧ low.AtMost v ∧ v.AtMost high := by
  obtain ⟨m, hm⟩ := hs.exists_hasPlace hlow
  obtain ⟨n, hn⟩ := ht.exists_hasPlace' hhigh
  rw [hlow.atMost_iff hhigh] at hle
  rw [hm.below_iff hlow] at hs
  rw [hhigh.below_iff hn] at ht
  obtain ⟨row, hrow, hoffers⟩ := exists_offers_two hfield hm hn
  refine ⟨row, hrow, ⟨t, (hoffers t).2 (Or.inr rfl), ?_⟩, ⟨s, (hoffers s).2 (Or.inl rfl), ?_⟩, ?_⟩
  · exact (hlow.atMost_iff hn).2 (by omega)
  · exact (hm.atMost_iff hhigh).2 (by omega)
  · rintro ⟨v, hv, hinside⟩
    rcases (hoffers v).1 hv with rfl | rfl
    · have hlowv := (hlow.atMost_iff hm).1 hinside.1
      omega
    · have hvhigh := (hn.atMost_iff hhigh).1 hinside.2
      omega

end Row

/-! ## How the operators fit together -/

namespace Comparison

/-- The two comparisons that ask for a value of at least one bound and for one of at most another.
-/
def bounds (c : Comparison) (lower upper : String) : Rule :=
  .group .and [c.askingOf .greaterOrEqual lower, c.askingOf .lessOrEqual upper]

/-- How the comparisons of a field with one operand fit together. -/
structure FollowsOrder (ctx : CompileContext) (c : Comparison) (field : Field) (v : Scalar) :
    Prop where
  notEqual : (c.asking .notEqual).SameAs ctx (.group .or [c.asking .less, c.asking .greater])
  lessOrEqual : field.valueKind = .number →
    (c.asking .lessOrEqual).SameAs ctx (.group .or [c.asking .less, c.asking .equal])
  greaterOrEqual : field.valueKind = .number →
    (c.asking .greaterOrEqual).SameAs ctx (.group .or [c.asking .greater, c.asking .equal])
  /-- Equality with a date is the day that begins there, in terms of the instant at which it ends
  and of any operand that is read as that instant. -/
  equal : field.IsCore → ∀ start stop, v = .date start → start.nextDay? = some stop →
    (c.asking .equal).Compiles ctx ∧
    (∀ row, (c.asking .equal).HoldsIn ctx row ↔ (c.asking .greaterOrEqual).HoldsIn ctx row ∧
      (Predicate.compare field (.less (.date stop))).holds row = true) ∧
    ∀ operand, c.type.read? ctx.timezone operand = some (.date stop) →
      (c.asking .equal).SameAs ctx
        (.group .and [c.asking .greaterOrEqual, c.askingOf .less operand])
  /-- No rule asks for equality with a date of the last day. -/
  endless : ∀ start, v = .date start → start.nextDay? = none → ¬(c.asking .equal).Compiles ctx

/-- How a range fits together with the comparisons with its two ends. -/
structure FollowsBounds (ctx : CompileContext) (c : Comparison) (field : Field)
    (lower upper : String) (low high : Scalar) : Prop where
  compiles : (c.asking .between).Compiles ctx
  compiles_bounds : (c.bounds lower upper).Compiles ctx
  bounds_of_between : ∀ row,
    (c.asking .between).HoldsIn ctx row → (c.bounds lower upper).HoldsIn ctx row
  between_iff_bounds : ∀ row : Row, field.IsCore ∨ row.OffersAtMostOne field →
    ((c.asking .between).HoldsIn ctx row ↔ (c.bounds lower upper).HoldsIn ctx row)
  /-- Of attributes the range asks for more, unless nothing lies below it or nothing above it. -/
  stronger_iff : ¬field.IsCore → low.AtMost high →
    ((∃ row : Row, row.IsStored ∧ (c.bounds lower upper).HoldsIn ctx row ∧
        ¬(c.asking .between).HoldsIn ctx row) ↔ ∃ s t : Scalar, s.Below low ∧ high.Below t)
  not_between : high.Below low → ∀ row : Row, row.IsStored → ¬(c.asking .between).HoldsIn ctx row

variable {ctx : CompileContext} {c : Comparison} {field : Field} {rest : List Scalar}
  {v low high : Scalar}

/-- With another operand, the operators that order look for a value in their relation to that. -/
lemma Reads.asksFor_askingOf {operands : List Scalar} (h : c.Reads ctx field operands)
    (operator : Operator) {operand : String} {w : Scalar}
    (hread : c.type.read? ctx.timezone operand = some w) (hequal : operator ≠ .equal)
    (hdefined : operator.IsDefinedFor c.type 1) :
    (c.askingOf operator operand).AsksFor ctx field (operator.Relates · [w]) := by
  have hreads : Reads { c with values := [operand] } ctx field [w] :=
    ⟨h.names, h.ordered, h.takes, by simp [hread]⟩
  exact hreads.asksFor_of_ne operator hequal hdefined

/-- The comparisons with one operand fit together. -/
lemma Reads.followsOrder (h : c.Reads ctx field (v :: rest)) : c.FollowsOrder ctx field v := by
  have hcount : 1 ≤ (v :: rest).length := Nat.le_add_left 1 rest.length
  have hless : (c.asking .less).AsksFor ctx field (·.Below v) :=
    h.asksFor_of_ne .less nofun ⟨h.type_eq, hcount⟩
  have hgreater : (c.asking .greater).AsksFor ctx field (v.Below ·) :=
    h.asksFor_of_ne .greater nofun ⟨h.type_eq, hcount⟩
  have hatLeast : (c.asking .greaterOrEqual).AsksFor ctx field (v.AtMost ·) :=
    h.asksFor_of_ne .greaterOrEqual nofun ⟨h.type_eq, hcount⟩
  obtain ⟨n, hn⟩ := h.exists_hasPlace List.mem_cons_self
  refine ⟨?_, ?_, ?_, ?_, ?_⟩
  · have hother : (c.asking .notEqual).AsksFor ctx field fun w => ¬w.Equals v :=
      h.asksFor_of_ne .notEqual nofun hcount
    exact hother.sameAs (hless.or hgreater) h.ordered fun w m hw => hw.not_equals_iff hn
  · intro hnumber
    have hatMost : (c.asking .lessOrEqual).AsksFor ctx field (·.AtMost v) :=
      h.asksFor_of_ne .lessOrEqual nofun ⟨h.type_eq, hcount⟩
    have hequal := h.asksFor_equal_of_number hnumber
    exact hatMost.sameAs (hless.or hequal) h.ordered fun w m hw =>
      hw.atMost_iff_below_or_equals hn
  · intro hnumber
    have hequal := h.asksFor_equal_of_number hnumber
    exact hatLeast.sameAs (hgreater.or hequal) h.ordered fun w m hw =>
      hw.atMost_iff_below_or_equals' hn
  · rintro hcore start stop rfl hstop
    have hone : ∀ row : Row, row.OffersAtMostOne field :=
      fun _ => Row.offersAtMostOne_of_isCore hcore
    have hequal := h.asksFor_equal_of_date hstop
    refine ⟨hequal.compiles, fun row => ?_, fun operand hread => ?_⟩
    · have htest : (ValueTest.less (.date stop)).IsOfValues := trivial
      rw [hequal.holdsIn_iff, hatLeast.holdsIn_iff, Predicate.holds_compare,
        Row.compares_iff_offers htest]
      simp only [ValueTest.passes, isLT_compare?_iff]
      exact (hone row).exists_and_iff
    · have hbelow : (c.askingOf .less operand).AsksFor ctx field (·.Below (.date stop)) :=
        h.asksFor_askingOf .less hread nofun ⟨h.type_eq, Nat.le_refl 1⟩
      obtain ⟨hcompiles, hboth⟩ := hatLeast.and hbelow
      refine ⟨hequal.compiles, hcompiles, fun row _ => ?_⟩
      rw [hequal.holdsIn_iff, hboth]
      exact (hone row).exists_and_iff
  · rintro start rfl hlast
    exact h.not_compiles_equal hlast

/-- A range and the comparisons with its ends fit together. -/
lemma Reads.followsBounds (h : c.Reads ctx field [low, high]) {lower upper : String}
    (hvalues : c.values = [lower, upper]) : c.FollowsBounds ctx field lower upper low high := by
  obtain ⟨hlower, hupper⟩ : c.type.read? ctx.timezone lower = some low ∧
      c.type.read? ctx.timezone upper = some high := by
    have hread := forall₂_of_mapM_eq_some h.read
    rw [hvalues] at hread
    simpa using hread
  have hbetween : (c.asking .between).AsksFor ctx field fun v => low.AtMost v ∧ v.AtMost high :=
    h.asksFor_of_ne .between nofun ⟨h.type_eq, rfl⟩
  have hatLeast : (c.askingOf .greaterOrEqual lower).AsksFor ctx field (low.AtMost ·) :=
    h.asksFor_askingOf .greaterOrEqual hlower nofun ⟨h.type_eq, Nat.le_refl 1⟩
  have hatMost : (c.askingOf .lessOrEqual upper).AsksFor ctx field (·.AtMost high) :=
    h.asksFor_askingOf .lessOrEqual hupper nofun ⟨h.type_eq, Nat.le_refl 1⟩
  obtain ⟨hcompiles, hboth⟩ := hatLeast.and hatMost
  obtain ⟨l, hl⟩ := h.exists_hasPlace (v := low) List.mem_cons_self
  obtain ⟨k, hk⟩ := h.exists_hasPlace (v := high) (by simp)
  refine ⟨hbetween.compiles, hcompiles, ?_, ?_, ?_, ?_⟩
  · intro row hrow
    obtain ⟨v, hv, hlow, hhigh⟩ := (hbetween.holdsIn_iff row).1 hrow
    exact (hboth row).2 ⟨⟨v, hv, hlow⟩, v, hv, hhigh⟩
  · intro row hone
    have hone' : row.OffersAtMostOne field := hone.elim Row.offersAtMostOne_of_isCore id
    rw [hbetween.holdsIn_iff, bounds, hboth]
    exact hone'.exists_and_iff
  · intro hfield hle
    constructor
    · rintro ⟨row, hrow, hbounds, hnot⟩
      obtain ⟨habove, hbelow⟩ := (hboth row).1 hbounds
      rw [hbetween.holdsIn_iff] at hnot
      exact hrow.exists_outside h.ordered hl hk habove hbelow hnot
    · rintro ⟨s, t, hs, ht⟩
      obtain ⟨row, hrow, habove, hbelow, hnone⟩ :=
        Row.exists_isStored_outside hfield hl hk hle hs ht
      refine ⟨row, hrow, (hboth row).2 ⟨habove, hbelow⟩, ?_⟩
      rwa [hbetween.holdsIn_iff]
  · intro hwrong row hrow hholds
    obtain ⟨v, hv, hinside⟩ := (hbetween.holdsIn_iff row).1 hholds
    obtain ⟨n, hn⟩ := hrow.exists_hasPlace h.ordered hv
    exact hl.not_between hk hwrong hn hinside

end Comparison

/-- The comparisons of one field with the same dates or numbers follow the order of dates and of
numbers, in the rows of revisions and of path data whose numbers are numbers; and the rows of a
dataset that is read are such rows. To be other than a value is to be less or greater, and of
numbers, at most a value is less than it or equal to it.

A range asks for no less than the comparisons with its two ends. Where at most one value is offered,
as of a core field, it asks for the same; of attributes it asks for more, unless nothing lies below
it or above it. A range whose ends are in the wrong order is empty, and equality with a date, where
one value is offered, is a range without its upper end. -/
theorem operators_follow_order {ctx : CompileContext} {c : Comparison} {field : Field}
    {operands : List Scalar} (h : c.Reads ctx field operands) :
    (∀ v ∈ operands, v.kind = field.valueKind ∧ v.IsComparable) ∧
    (∀ v rest, operands = v :: rest → c.FollowsOrder ctx field v) ∧
    (∀ lower upper low high, c.values = [lower, upper] → operands = [low, high] →
      c.FollowsBounds ctx field lower upper low high) ∧
    ∀ (text : String) (d : Dataset), Dataset.ofJson text = .ok d →
      (∀ r ∈ d.revisions, ∀ i ∈ r.iterations, (i.row r).IsStored) ∧
      ∀ p ∈ d.pathData, ∀ i ∈ p.iterations, (i.row p).IsStored := by
  refine ⟨?_, ?_, ?_, ?_⟩
  · intro v hv
    obtain ⟨n, hplace⟩ := h.exists_hasPlace hv
    exact hplace.kind_eq_and_isComparable
  · rintro v rest rfl
    exact h.followsOrder
  · rintro lower upper low high hvalues rfl
    exact h.followsBounds hvalues
  · intro text d hread
    have hmeasured := Dataset.isMeasured_of_ofJson hread
    refine ⟨fun r hr i hi => ?_, fun p hp i hi => ?_⟩
    · exact .revision r (hmeasured.revisions r hr i hi)
    · exact .pathData p (hmeasured.pathData p hp i hi)

/-- A weight from three to five. -/
def weightRange : Comparison :=
  ⟨"attr-NUMBER.weight", .between, ["3", "5"], .double⟩

/-- The weights are read, and something that weighs one and nine at once is at least of one of them
and at most of the other, but not in the range. -/
theorem weightRange_stronger :
    weightRange.Reads ⟨.revision, Offset.zero⟩ (.dynamic .revision .number "weight")
      [.number (.ofNat 3), .number (.ofNat 5)] ∧
    ∃ row : Row, row.IsStored ∧
      (weightRange.bounds "3" "5").HoldsIn ⟨.revision, Offset.zero⟩ row ∧
      ¬(weightRange.asking .between).HoldsIn ⟨.revision, Offset.zero⟩ row := by
  have hreads : weightRange.Reads ⟨.revision, Offset.zero⟩ (.dynamic .revision .number "weight")
      [.number (.ofNat 3), .number (.ofNat 5)] :=
    ⟨⟨rfl, rfl⟩, Or.inr rfl, rfl, by decide +kernel⟩
  refine ⟨hreads, ?_⟩
  obtain ⟨-, -, hbounds, -⟩ := operators_follow_order hreads
  refine ((hbounds "3" "5" _ _ rfl rfl).stronger_iff ?_ ?_).2
    ⟨.number (.ofNat 1), .number (.ofNat 9), ?_, ?_⟩
  · intro hcore
    exact hcore _ _ _ rfl
  all_goals exact ⟨by decide +kernel, by decide +kernel, by decide +kernel⟩

end PartQuery
