import PartQuery.Proofs.Acceptance
import PartQuery.Proofs.Rows
import PartQuery.Proofs.WellTyped

/-!
# What a comparison asks of a row

A row offers values of a field to comparisons: one or none of a field that the entity has once, and
one for each attribute of a name and a kind. A comparison of a field that holds values asks whether
one of the values offered stands in the relation of its operator to its operands, which are read
once and for all rows (`Comparison.exists_relates`). Later modules compare what several comparisons
of one field ask, and do not look at tests or tables again.
-/

namespace PartQuery

/-- A field that an entity has once, and not as one of its attributes. -/
def Field.IsCore (field : Field) : Prop :=
  ∀ owner kind name, field ≠ .dynamic owner kind name

/-- Only two fields are read from the last iteration. -/
lemma Field.eq_of_isLastIterationOnly {field : Field} (h : field.isLastIterationOnly = true) :
    field = .revision .checkInDate ∨ field = .revision .modificationDate := by
  cases field with
  | revision f =>
    cases f with
    | checkInDate => exact Or.inl rfl
    | modificationDate => exact Or.inr rfl
    | _ => cases h
  | _ => cases h

/-- What a field holds in an iteration it holds in another one, of the same revision with any
iterations, if that has the attributes, should the field be one of them, and the two dates as the
last iteration, should it be one of these. -/
lemma Field.holds_of_iteration {r : Revision} {i j : Iteration} {iterations : List Iteration}
    {field : Field} {v : Scalar}
    (hattributes : ∀ kind name, field = .dynamic .revision kind name → i.attributes ⊆ j.attributes)
    (hdates : field.isLastIterationOnly = true → i.number = r.iterations.length →
      j.number = iterations.length ∧ j.checkInDate = i.checkInDate ∧
        j.modificationDate = i.modificationDate)
    (hv : field.Holds r i v) : field.Holds { r with iterations := iterations } j v := by
  cases field with
  | master f => cases f <;> exact hv
  | author f => cases f <;> exact hv
  | revision f =>
    cases f with
    | checkInDate =>
      obtain ⟨hlast, t, ht, rfl⟩ := hv
      obtain ⟨hlast', hcheckIn, -⟩ := hdates rfl hlast
      exact ⟨hlast', t, hcheckIn.trans ht, rfl⟩
    | modificationDate =>
      obtain ⟨hlast, t, ht, rfl⟩ := hv
      obtain ⟨hlast', -, hmodification⟩ := hdates rfl hlast
      exact ⟨hlast', t, hmodification.trans ht, rfl⟩
    | _ => exact hv
  | dynamic owner kind name =>
    cases owner with
    | revision =>
      obtain ⟨a, ha, hshows⟩ := hv
      exact ⟨a, hattributes kind name rfl ha, hshows⟩
    | pathData => exact hv

namespace Row

/-- A row offers a value of a field: it shows the value, and if the field is read from the last
iteration only, the row is that of the last iteration. -/
def Offers (row : Row) (field : Field) (v : Scalar) : Prop :=
  (field.isLastIterationOnly = true → row.isLast = true) ∧ row.Shows field v

/-- A row offers one value of a field and no other. -/
def OffersOnly (row : Row) (field : Field) (v : Scalar) : Prop :=
  ∀ w, row.Offers field w ↔ w = v

/-- What is offered alone is offered. -/
lemma OffersOnly.offers {row : Row} {field : Field} {v : Scalar} (h : row.OffersOnly field v) :
    row.Offers field v :=
  (h v).2 rfl

/-- A test of values holds of a row exactly when one of the values offered passes. -/
lemma compares_iff_offers {row : Row} {field : Field} {test : ValueTest} (htest : test.IsOfValues) :
    Predicate.compares row field test = true ↔
      ∃ v, row.Offers field v ∧ test.passes v = true := by
  rw [compares_iff_shows htest]
  unfold Offers
  simp only [Bool.or_eq_true, Bool.not_eq_true', ← Bool.not_eq_true, ← imp_iff_not_or, and_assoc,
    exists_and_left]

/-- Another row has the same labels and offers of a field whatever a row does. -/
structure Within (row other : Row) (field : Field) : Prop where
  hasTag_eq : row.hasTag = other.hasTag
  offers : ∀ v, row.Offers field v → other.Offers field v

/-- A comparison that holds of a row holds of any other that offers whatever the row does. -/
lemma Within.compares {row other : Row} {field : Field} (h : row.Within other field)
    {test : ValueTest} (hcompares : Predicate.compares row field test = true) :
    Predicate.compares other field test = true := by
  by_cases htest : test.IsOfValues
  · rw [compares_iff_offers htest] at hcompares ⊢
    obtain ⟨v, hv, hpasses⟩ := hcompares
    exact ⟨v, h.offers v hv, hpasses⟩
  · -- What is asked of labels, or of nothing, is not asked of a value.
    have hsame := h.hasTag_eq
    cases test with
    | always => cases field <;> rfl
    | tagsAny labels | tagsNone labels =>
      cases field <;> simpa [Predicate.compares, hsame] using hcompares
    | _ => exact absurd trivial htest

/-- The values that the row of an entity offers are of the kind that the field holds. -/
lemma IsOfEntity.kind_of_offers {row : Row} (hrow : row.IsOfEntity) {field : Field} {v : Scalar}
    (h : row.Offers field v) : v.kind = field.valueKind :=
  hrow.kind_of_shows h.2

/-- Attributes are offered in the rows of all iterations. -/
lemma offers_dynamic_iff {row : Row} {owner : Family} {kind : AttributeKind} {name : String}
    {v : Scalar} :
    row.Offers (.dynamic owner kind name) v ↔ row.Shows (.dynamic owner kind name) v :=
  and_iff_right nofun

/-- What a row shows of a core field is the value that it has of it. -/
lemma shows_iff_of_isCore {row : Row} {field : Field} (hcore : field.IsCore) {v : Scalar} :
    row.Shows field v ↔ row.value? field = some v := by
  cases field with
  | dynamic owner kind name => exact absurd rfl (hcore owner kind name)
  | _ => exact Iff.rfl

/-- A row offers no more than one value of a core field. -/
lemma Offers.offersOnly {row : Row} {field : Field} (hcore : field.IsCore) {v : Scalar}
    (h : row.Offers field v) : row.OffersOnly field v := by
  intro w
  constructor
  · intro hw
    have hv := (shows_iff_of_isCore hcore).1 h.2
    exact Option.some.inj (((shows_iff_of_isCore hcore).1 hw.2).symm.trans hv)
  · rintro rfl
    exact h

/-- The row of a revision and an iteration offers what its fields hold. -/
lemma offers_row_iff {r : Revision} {i : Iteration} {field : Field} {v : Scalar} :
    (i.row r).Offers field v ↔ field.Holds r i v := by
  by_cases hdynamic : ∃ owner kind name, field = .dynamic owner kind name
  · obtain ⟨owner, kind, name, rfl⟩ := hdynamic
    rw [offers_dynamic_iff]
    cases owner with
    | revision => simp [Shows, Iteration.row, Field.Holds, scalarOf?_eq_some_iff]
    | pathData => simp [Shows, Iteration.row, Field.Holds]
  · have hcore : field.IsCore := fun owner kind name h => hdynamic ⟨owner, kind, name, h⟩
    rw [Offers, shows_iff_of_isCore hcore, ← value?_row_iff hcore]
    simp [imp_iff_not_or]

end Row

/-- A predicate that holds of a row holds of any other that offers whatever the row does of the
fields that the predicate asks for. -/
lemma Predicate.Everywhere.holds_of_within {row other : Row} {p : Predicate}
    (h : p.Everywhere fun field _ => row.Within other field) (hholds : p.holds row = true) :
    p.holds other = true :=
  (h.imp fun _ _ hwithin => hwithin.compares).holds_mono hholds

/-- A comparison that names a field compiles to a test that it may make of that field. -/
lemma Comparison.exists_tested {ctx : CompileContext} {c : Comparison} {field : Field}
    (hnames : c.Names ctx.family field) {p : Predicate} (hp : (Rule.leaf c).compile ctx = .ok p) :
    ∃ test, p = .compare field test ∧ c.Tested ctx.timezone field.valueKind test := by
  rw [Rule.compile] at hp
  obtain ⟨found, test, hname, -, htest, rfl⟩ := Comparison.compile_eq_ok_iff.1 hp
  obtain rfl : found = field := Option.some.inj (hname.symm.trans hnames.1)
  exact ⟨test, rfl, Comparison.tested_of_test htest⟩

/-- A comparison of a field that holds values compiles only if its operands can be read, and then it
holds of a row exactly when the row offers a value that stands in the relation of its operator to
them. -/
theorem Comparison.exists_relates {ctx : CompileContext} {c : Comparison} {field : Field}
    (hnames : c.Names ctx.family field)
    (hvalue : field.valueKind ≠ .unchecked ∧ field.valueKind ≠ .tags) {p : Predicate}
    (hp : (Rule.leaf c).compile ctx = .ok p) :
    ∃ operands test, c.values.mapM (field.valueKind.operand? c.type ctx.timezone) = some operands ∧
      (∀ w ∈ operands, w.kind = field.valueKind) ∧ c.operator.Makes operands test ∧
      ∀ row : Row, p.holds row = true ↔
        ∃ v, row.Offers field v ∧ c.operator.Relates v operands := by
  obtain ⟨test, rfl, htested⟩ := Comparison.exists_tested hnames hp
  generalize field.valueKind = kind at hvalue htested
  cases htested with
  | unchecked => exact absurd rfl hvalue.1
  | tagsAny hoperator hvalues => exact absurd rfl hvalue.2
  | tagsNone hoperator hvalues => exact absurd rfl hvalue.2
  | @value kind operands test hread hkinds hmakes =>
    refine ⟨operands, test, hread, hkinds, hmakes, fun row => ?_⟩
    rw [Predicate.holds_compare, Row.compares_iff_offers hmakes.isOfValues]
    simp only [hmakes.passes_iff]

end PartQuery
