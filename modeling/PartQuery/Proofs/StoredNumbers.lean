import PartQuery.Part.Reader
import PartQuery.Proofs.Json.Numerals
import PartQuery.Proofs.Ordering

/-!
# Stored numbers

An attribute holds a measured quantity as documents write it. Whoever copies the number into a rule
names the same decimal, and the operand is the nearest number to that. What the attribute holds has
the same sign, and a magnitude that is no more than three steps away, or five where the power of ten
is below `-308`. It is the operand itself if the significand and the power of ten are held in full
(`stored_numbers_read_near`). Of other numbers this is not sure, and then the comparison by `equal`
with the very text of the document may miss the attribute (`largeWeight_missed`).
-/

namespace PartQuery

namespace Binary64

variable {x y : Binary64}

/-- Comparable numbers of one sign are the same only if they are one. -/
lemma same_iff_eq (hsign : x.negative = y.negative) (hx : x.isNaN = false) (hy : y.isNaN = false) :
    x.same y = true ↔ x = y := by
  have hsame : x.same y = true ↔ x.rank = y.rank := by
    simp [same, compare?, hx, hy]
  rw [hsame]
  constructor
  · intro hrank
    obtain ⟨negative, magnitude⟩ := x
    obtain ⟨negative', magnitude'⟩ := y
    obtain rfl : negative = negative' := hsign
    cases negative <;> simpa [rank] using hrank
  · rintro rfl
    rfl

end Binary64

/-! ## Attributes and the operands of their text -/

section

variable {x y : Binary64} {n : Json.Numeral} {value : Except Json.Flaw Json.Number}
  {s rest : List Char}

/-- A number that an attribute is read from is scanned and has a value. -/
lemma exists_of_read_number (hscan : Json.scanNumber s = (value, some rest))
    (hread : AttributeValue.read .number (.number value) = .ok (.number x)) :
    ∃ n v, Json.Numeral.scan s = .ok (n, rest) ∧ n.value? = some v ∧ v.binary = x := by
  unfold Json.scanNumber at hscan
  split at hscan
  · cases hscan
  · next n after hn =>
    obtain ⟨rfl, hrest⟩ := Prod.mk.inj hscan
    obtain rfl := Option.some.inj hrest
    obtain ⟨z, hz, hx⟩ := map_eq_ok_iff.1 hread
    obtain rfl := AttributeValue.number.inj hx
    split at hz
    · next v hv =>
      rw [Json.Reader.real_number] at hz
      exact ⟨n, v, hn, hv, Except.ok.inj hz⟩
    · cases hz

/-- What is read near to a number is the operand of its text if the decimal is held. -/
lemma Json.Numeral.ReadsNear.eq_of_isHeld (h : n.ReadsNear x) (hheld : n.decimal.IsHeld) :
    x = ⟨n.negative, n.decimal.nearestMagnitude⟩ := by
  rw [← h.negative_eq, ← h.held hheld]

end

/-- An attribute belongs to the family of its owner. -/
lemma Field.family_dynamic {owner : Family} {kind : AttributeKind} {name : String} :
    (Field.dynamic owner kind name).family = owner := by
  cases owner <;> rfl

namespace Rule

variable {ctx : CompileContext} {name key operand : String} {y : Binary64}

/-- A comparison of attributes with a number by `equal` compiles, and looks for attributes that hold
the number. -/
lemma holdsIn_equal_number (hname : Field.ofName? name = some (.dynamic ctx.family .number key))
    (hread : Binary64.read? operand = some y) :
    (leaf ⟨name, .equal, [operand], .double⟩).Compiles ctx ∧
      ∀ (row : Row) (attributes : List Attribute), row.attributes? ctx.family = some attributes →
        ((leaf ⟨name, .equal, [operand], .double⟩).HoldsIn ctx row ↔
          ∃ z, ⟨key, .number z⟩ ∈ attributes ∧ z.same y = true) := by
  have hreads : Comparison.Reads ⟨name, .equal, [operand], .double⟩ ctx
      (.dynamic ctx.family .number key) [.number y] :=
    ⟨⟨hname, Field.family_dynamic⟩, Or.inr rfl, rfl, by simp [OperandType.read?, hread]⟩
  have hasks := hreads.asksFor_equal_of_number rfl
  refine ⟨hasks.compiles, fun row attributes hattributes => ?_⟩
  refine (hasks.holdsIn_iff row).trans ?_
  constructor
  · rintro ⟨v, hoffers, hequals⟩
    obtain ⟨held, hheld, a, ha, hkey, hvalue⟩ := Row.offers_dynamic_iff.1 hoffers
    obtain rfl : held = attributes := Option.some.inj (hheld.symm.trans hattributes)
    have hshows := scalarOf?_eq_some_iff.1 hvalue
    cases v with
    | number z =>
      refine ⟨z, ?_, same_iff.2 hequals⟩
      rw [← hkey, ← AttributeValue.eq_number_of_shows hshows]
      exact ha
    | _ => cases hequals
  · rintro ⟨z, hz, hsame⟩
    exact ⟨.number z, Row.offers_dynamic_iff.2 ⟨attributes, hattributes, _, hz, rfl, rfl⟩,
      same_iff.1 hsame⟩

end Rule

/-- A text of no more than `2 ^ 30` characters that a document has as the number of an attribute is
an operand too, and names the nearest number to its decimal, with its sign. What the attribute holds
has that sign, and a magnitude a few steps away; it is the operand if the decimal is held. The
comparison of such attributes with the text by `equal` compiles, and holds of the rows that have an
attribute with the same number; so of a row in which what the document wrote is the only attribute
of the name, it holds exactly when that is the operand. -/
theorem stored_numbers_read_near {t : String} (hlength : t.length ≤ twoPow 30)
    {value : Except Json.Flaw Json.Number} (hscan : Json.scanNumber t.toList = (value, some []))
    {x : Binary64} (hread : AttributeValue.read .number (.number value) = .ok (.number x)) :
    ∃ (n : Json.Numeral) (y : Binary64), Json.Numeral.scan t.toList = .ok (n, []) ∧
      Binary64.read? t = some y ∧ y = ⟨n.negative, n.decimal.nearestMagnitude⟩ ∧
      n.ReadsNear x ∧ (n.decimal.IsHeld → x = y) ∧
      ∀ (ctx : CompileContext) (name key : String),
        Field.ofName? name = some (.dynamic ctx.family .number key) →
        (Rule.leaf ⟨name, .equal, [t], .double⟩).Compiles ctx ∧
        ∀ (row : Row) (attributes : List Attribute), row.attributes? ctx.family = some attributes →
          ((Rule.leaf ⟨name, .equal, [t], .double⟩).HoldsIn ctx row ↔
            ∃ z, ⟨key, .number z⟩ ∈ attributes ∧ z.same y = true) ∧
          (⟨key, .number x⟩ ∈ attributes → (∀ a ∈ attributes, a.name = key → a.value = .number x) →
            ((Rule.leaf ⟨name, .equal, [t], .double⟩).HoldsIn ctx row ↔ x = y)) := by
  obtain ⟨n, v, hn, hv, rfl⟩ := exists_of_read_number hscan hread
  have hnear := Json.Numeral.readsNear_of_value? hn hlength hv
  have hoperand := Json.Numeral.read?_of_scan hn
  have hmeasured : v.binary.isNaN = false :=
    AttributeValue.isMeasured_of_read
      (.number fun k hk => Json.isMeasured_of_scanNumber (by rw [hscan, hk])) hread _ rfl
  have hsame := Binary64.same_iff_eq hnear.negative_eq hmeasured (Binary64.isNaN_of_read? hoperand)
  refine ⟨n, _, hn, hoperand, rfl, hnear, hnear.eq_of_isHeld, fun ctx name key hname => ?_⟩
  obtain ⟨hcompiles, hholds⟩ := Rule.holdsIn_equal_number hname hoperand
  refine ⟨hcompiles, fun row attributes hattributes => ⟨hholds row attributes hattributes, ?_⟩⟩
  intro hmem honly
  rw [hholds row attributes hattributes]
  constructor
  · rintro ⟨z, hz, hzy⟩
    obtain rfl := AttributeValue.number.inj (honly _ hz rfl)
    exact hsame.1 hzy
  · intro hxy
    exact ⟨_, hmem, hsame.2 hxy⟩

/-- An iteration with one attribute, a weight. -/
def weighing (x : Binary64) : Iteration :=
  { (default : Iteration) with attributes := [⟨"weight", .number x⟩] }

/-- Twelve and a half, as a document has it. -/
def plainWeight : Binary64 :=
  ⟨false, 0x4029000000000000⟩

/-- It is found by its text. -/
theorem plainWeight_found :
    "12.5".length ≤ twoPow 30 ∧
    Json.scanNumber "12.5".toList = (.ok (.real plainWeight), some []) ∧
    AttributeValue.read .number (.number (.ok (.real plainWeight))) = .ok (.number plainWeight) ∧
    (Rule.leaf ⟨"attr-NUMBER.weight", .equal, ["12.5"], .double⟩).HoldsIn ⟨.revision, Offset.zero⟩
      ((weighing plainWeight).row default) := by
  have hlength : "12.5".length ≤ twoPow 30 := by decide +kernel
  have hscan : Json.scanNumber "12.5".toList = (.ok (.real plainWeight), some []) := by
    decide +kernel
  refine ⟨hlength, hscan, rfl, ?_⟩
  obtain ⟨n, y, hn, -, -, -, hheld, hrules⟩ := stored_numbers_read_near hlength hscan rfl
  obtain ⟨-, hrows⟩ := hrules ⟨.revision, Offset.zero⟩ "attr-NUMBER.weight" "weight" rfl
  obtain ⟨-, hrow⟩ := hrows ((weighing plainWeight).row default) _ rfl
  have hscanned : Json.Numeral.scan "12.5".toList =
      .ok (⟨false, ['1', '2'], ['5'], none⟩, []) := rfl
  obtain ⟨rfl, -⟩ := Prod.mk.inj (Except.ok.inj (hn.symm.trans hscanned))
  refine (hrow List.mem_cons_self ?_).2 (hheld (Or.inr (by decide)))
  simp [weighing]

/-- Three times the twenty-third power of ten, as a document has it. -/
def largeWeight : Binary64 :=
  ⟨false, 0x44CFC3842BD1F071⟩

/-- The operand of its text is the next number, and the comparison with the text by `equal`, though
it compiles, misses it: the power of ten is not held in full. -/
theorem largeWeight_missed :
    Json.scanNumber "3e23".toList = (.ok (.real largeWeight), some []) ∧
    AttributeValue.read .number (.number (.ok (.real largeWeight))) = .ok (.number largeWeight) ∧
    Binary64.read? "3e23" = some ⟨false, largeWeight.magnitude + 1⟩ ∧
    (Rule.leaf ⟨"attr-NUMBER.weight", .equal, ["3e23"], .double⟩).Compiles
      ⟨.revision, Offset.zero⟩ ∧
    ¬(Rule.leaf ⟨"attr-NUMBER.weight", .equal, ["3e23"], .double⟩).HoldsIn
      ⟨.revision, Offset.zero⟩ ((weighing largeWeight).row default) := by
  have hread : Binary64.read? "3e23" = some ⟨false, largeWeight.magnitude + 1⟩ := by
    decide +kernel
  have hname : Field.ofName? "attr-NUMBER.weight" =
      some (.dynamic (CompileContext.mk .revision Offset.zero).family .number "weight") := rfl
  obtain ⟨hcompiles, hholds⟩ := Rule.holdsIn_equal_number hname hread
  refine ⟨by decide +kernel, rfl, hread, hcompiles, ?_⟩
  rw [hholds ((weighing largeWeight).row default) _ rfl]
  rintro ⟨z, hz, hsame⟩
  obtain rfl := AttributeValue.number.inj (Attribute.mk.inj (List.mem_singleton.1 hz)).2
  exact absurd hsame (by decide +kernel)

end PartQuery
