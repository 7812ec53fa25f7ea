import PartQuery.Part.Reader
import PartQuery.Proofs.Json.Records
import PartQuery.Proofs.WellTyped

/-!
# Numbers of a document are numbers

A number that is written in a document is computed step by step, and each step is rounded to the
magnitude of a number. So the outline of a document holds none of the values that are not numbers
(`Json.invariant_measured`), and neither does a dataset that is read from it
(`Dataset.isMeasured_of_ofJson`).
-/

namespace PartQuery

/-! ## Arithmetic -/

namespace Binary64

variable {x y : Binary64}

/-- A magnitude up to that of infinity is that of a number. -/
lemma isNaN_eq_false_iff : x.isNaN = false ↔ x.magnitude ≤ infiniteMagnitude := by
  simp [isNaN]

/-- A rounded product is a number. -/
lemma isNaN_scaleUp : (x.scaleUp y).isNaN = false :=
  isNaN_eq_false_iff.2 (nearestMagnitude_le _ _)

/-- A rounded quotient is a number. -/
lemma isNaN_scaleDown : (x.scaleDown y).isNaN = false :=
  isNaN_eq_false_iff.2 (nearestMagnitude_le _ _)

/-- A rounded natural number is a number. -/
lemma isNaN_ofNat (n : Nat) : (ofNat n).isNaN = false :=
  isNaN_eq_false_iff.2 (nearestMagnitude_le _ _)

end Binary64

namespace Json

/-- A number of a document is none of the values that are not numbers. -/
def Number.IsMeasured : Number → Prop
  | whole _ => True
  | real x => x.isNaN = false

namespace Numeral

/-- A significand times a power of ten is a number. -/
lemma isNaN_of_scaled? {significand : Nat} {exponent : Int} {x : Binary64}
    (h : scaled? significand exponent = some x) : x.isNaN = false := by
  simp only [scaled?] at h
  split at h
  · cases h
    exact Binary64.isNaN_scaleDown
  split at h
  · split at h
    · cases h
    · cases h
      exact Binary64.isNaN_scaleUp
  split at h
  · cases h
    exact Binary64.isNaN_ofNat significand
  · cases h

/-- The sign makes no difference. -/
lemma isMeasured_of_real? {negative : Bool} {significand : Nat} {exponent : Int} {k : Number}
    (h : real? negative significand exponent = some k) : k.IsMeasured := by
  obtain ⟨x, hx, rfl⟩ := Option.map_eq_some_iff.1 h
  have hmeasured : x.isNaN = false := isNaN_of_scaled? hx
  exact hmeasured

/-- A number without point and power of ten is a number. -/
lemma isMeasured_of_wholeValue? {negative : Bool} {significand dropped : Nat} {k : Number}
    (h : wholeValue? negative significand dropped = some k) : k.IsMeasured := by
  unfold wholeValue? at h
  split at h
  · exact isMeasured_of_real? h
  split at h
  · cases h
    trivial
  split at h
  · cases h
    trivial
  · exact isMeasured_of_real? h

/-- The value of a number is a number. -/
lemma isMeasured_of_value? {n : Numeral} {k : Number} (h : n.value? = some k) :
    k.IsMeasured := by
  simp only [value?] at h
  split at h
  · exact isMeasured_of_wholeValue? h
  split at h
  · exact isMeasured_of_real? h
  split at h
  · exact isMeasured_of_real? h
  split at h
  · cases h
  · exact isMeasured_of_real? h

end Numeral

/-- A number that is scanned is a number. -/
lemma isMeasured_of_scanNumber {s : List Char} {k : Number} (h : (scanNumber s).1 = .ok k) :
    k.IsMeasured := by
  unfold scanNumber at h
  split at h
  · cases h
  · split at h
    · next hvalue =>
      cases h
      exact Numeral.isMeasured_of_value? hvalue
    · cases h

/-! ## Outlines -/

/-- All numbers in an outline are numbers. -/
inductive Outline.Measured : Outline → Prop
  | null : Measured .null
  | boolean (b : Bool) : Measured (.boolean b)
  | number {n : Except Flaw Number} (h : ∀ k, n = .ok k → k.IsMeasured) : Measured (.number n)
  | text (s : Except Flaw String) : Measured (.text s)
  | array {level : Nat} {elements : List Outline} {ending : Ending}
      (h : ∀ o ∈ elements, Measured o) : Measured (.array level elements ending)
  | object {level : Nat} {members : List (Except Flaw String × Outline)} {ending : Ending}
      (h : ∀ m ∈ members, Measured m.2) : Measured (.object level members ending)
  | broken (fault : Fault) : Measured (.broken fault)
  | absent : Measured .absent

/-- Scanning finds numbers only. -/
lemma invariant_measured : Outline.Invariant fun _ => Outline.Measured where
  null := .null
  boolean := .boolean
  number _ := .number fun _ => isMeasured_of_scanNumber
  text := .text
  array := .array
  object := .object
  broken := .broken
  absent := .absent

/-- What stands inside an outline holds numbers only if the outline does. -/
lemma Outline.Measured.of_isInside {inner o : Outline} (h : o.Measured)
    (hinner : inner.IsInside o) : inner.Measured := by
  cases hinner with
  | element hmem =>
    cases h with
    | array helements => exact helements _ hmem
  | member hmem =>
    cases h with
    | object hmembers => exact hmembers _ hmem

namespace Reader

/-- A number that is read is a number. -/
lemma isNaN_of_real {o : Outline} {x : Binary64} (hmeasured : o.Measured)
    (h : real o = .ok x) : x.isNaN = false := by
  cases hmeasured with
  | @number n hn =>
    obtain ⟨k, hk, h⟩ := bind_eq_ok_iff.1 h
    cases n with
    | error flaw => cases hk
    | ok k' =>
      cases hk
      cases k with
      | whole m =>
        cases h
        exact Binary64.isNaN_eq_false_iff.2 (Binary64.nearestMagnitude_le _ _)
      | real y =>
        cases h
        exact hn _ rfl
  | _ => cases h

end Reader

end Json

/-! ## Datasets -/

/-- If an attribute holds a number, it is none of the values that are not numbers. -/
def AttributeValue.IsMeasured (v : AttributeValue) : Prop :=
  ∀ x, v = .number x → x.isNaN = false

/-- The attributes of all iterations in a dataset hold numbers that are numbers. -/
structure Dataset.IsMeasured (d : Dataset) : Prop where
  revisions : ∀ r ∈ d.revisions, ∀ i ∈ r.iterations, ∀ a ∈ i.attributes, a.value.IsMeasured
  pathData : ∀ p ∈ d.pathData, ∀ i ∈ p.iterations, ∀ a ∈ i.attributes, a.value.IsMeasured

open Json (Fault Outline Reader Slot)

namespace AttributeValue

/-- What is read for an attribute of some kind is of that kind. -/
lemma kind_of_read {kind : AttributeKind} {o : Outline} {v : AttributeValue}
    (h : read kind o = .ok v) : v.kind = kind := by
  cases kind with
  | lov =>
    obtain ⟨_, -, h⟩ := bind_eq_ok_iff.1 h
    cases h
    rfl
  | _ =>
    obtain ⟨_, -, rfl⟩ := map_eq_ok_iff.1 h
    rfl

/-- If what is read for an attribute is a number, it is none of the values that are not numbers. -/
lemma isMeasured_of_read {kind : AttributeKind} {o : Outline} {v : AttributeValue}
    (ho : o.Measured) (h : read kind o = .ok v) : v.IsMeasured := by
  rintro x rfl
  obtain rfl : .number = kind := kind_of_read h
  obtain ⟨y, hy, hxy⟩ := map_eq_ok_iff.1 h
  cases hxy
  exact Reader.isNaN_of_real ho hy

/-- The value of an attribute is read from one of its members. -/
lemma isMeasured_of_ofMembers? {members : List (String × Outline)} {v : AttributeValue}
    (hmembers : ∀ m ∈ members, m.2.Measured) (h : ofMembers? members = some v) : v.IsMeasured := by
  simp only [ofMembers?] at h
  split at h
  · next kind _ value _ hvalue =>
    obtain ⟨found, -, h⟩ := Option.bind_eq_some_iff.1 h
    have hmem := List.mem_of_mem_filter (hvalue ▸ List.mem_singleton.2 rfl)
    cases hread : read found value with
    | error e =>
      rw [hread] at h
      cases h
    | ok w =>
      rw [hread] at h
      cases h
      exact isMeasured_of_read (hmembers _ hmem) hread
  · obtain ⟨found, -, h⟩ := Option.bind_eq_some_iff.1 h
    split at h
    · cases h
      exact nofun
    · cases h
  · cases h

end AttributeValue

namespace Attribute

/-- The members that are kept apart are those of the attribute. -/
lemma measured_of_gather {name found : Option String} {others rest : List (String × Outline)}
    {members : List (Except Json.Flaw String × Outline)} (hothers : ∀ p ∈ others, p.2.Measured)
    (hmembers : ∀ m ∈ members, m.2.Measured) (h : gather name others members = .ok (found, rest)) :
    ∀ p ∈ rest, p.2.Measured := by
  induction members generalizing name others with
  | nil =>
    cases h
    simpa using hothers
  | cons m members ih =>
    obtain ⟨key, o⟩ := m
    obtain ⟨ho, hmembers⟩ := List.forall_mem_cons.1 hmembers
    rw [gather] at h
    obtain ⟨key, -, h⟩ := bind_eq_ok_iff.1 h
    split at h
    · split at h
      · cases h
      · obtain ⟨_, -, h⟩ := bind_eq_ok_iff.1 h
        exact ih hothers hmembers h
    · obtain ⟨-, -, h⟩ := bind_eq_ok_iff.1 h
      exact ih (List.forall_mem_cons.2 ⟨ho, hothers⟩) hmembers h

/-- An attribute that is read is measured. -/
lemma isMeasured_of_read {o : Outline} {a : Attribute} (ho : o.Measured) (h : read o = .ok a) :
    a.value.IsMeasured := by
  cases ho with
  | object hmembers =>
    obtain ⟨-, -, h⟩ := bind_eq_ok_iff.1 h
    obtain ⟨⟨name, others⟩, hgather, h⟩ := bind_eq_ok_iff.1 h
    obtain ⟨-, -, h⟩ := bind_eq_ok_iff.1 h
    cases name with
    | none => cases h
    | some name =>
      cases hvalue : AttributeValue.ofMembers? others with
      | none =>
        simp only [hvalue] at h
        cases h
      | some value =>
        simp only [hvalue] at h
        cases h
        exact AttributeValue.isMeasured_of_ofMembers?
          (measured_of_gather (by simp) hmembers hgather) hvalue
  | _ => cases h

end Attribute

/-- What all items of a list have that are read from something measured, all items that are read
have. -/
lemma forall_mem_of_list {α : Type} {P : α → Prop} {item : Reader α}
    (hitem : ∀ {o : Outline} {a : α}, o.Measured → item o = .ok a → P a) {o : Outline} {l : List α}
    (ho : o.Measured) (h : Reader.list item o = .ok l) : ∀ a ∈ l, P a := by
  intro a ha
  obtain ⟨inner, hinner, hread⟩ := Reader.exists_isInside_of_list h a ha
  exact hitem (ho.of_isInside hinner) hread

/-- An iteration of a revision that is read is measured. -/
lemma Iteration.isMeasured_of_read {o : Outline} {i : Iteration} (ho : o.Measured)
    (h : read o = .ok i) : ∀ a ∈ i.attributes, a.value.IsMeasured := by
  refine Reader.record_preserves_of_inside (P := fun i : Iteration =>
    ∀ a ∈ i.attributes, a.value.IsMeasured) (fun _ => ho.of_isInside) ?_ (List.forall_mem_nil _) h
  simp only [List.forall_mem_cons]
  refine ⟨?_, ?_, ?_, ?_, by simp⟩
  all_goals
    intro o i i' ho hread hi
    obtain ⟨l, hl, rfl⟩ := Slot.of_read_eq_ok_iff.1 hread
  case refine_4 => exact forall_mem_of_list Attribute.isMeasured_of_read ho hl
  all_goals exact hi

/-- An iteration of path data that is read is measured. -/
lemma PathIteration.isMeasured_of_read {o : Outline} {i : PathIteration} (ho : o.Measured)
    (h : read o = .ok i) : ∀ a ∈ i.attributes, a.value.IsMeasured := by
  refine Reader.record_preserves_of_inside (P := fun i : PathIteration =>
    ∀ a ∈ i.attributes, a.value.IsMeasured) (fun _ => ho.of_isInside) ?_ (List.forall_mem_nil _) h
  simp only [List.forall_mem_cons]
  refine ⟨?_, ?_, ?_, by simp⟩
  all_goals
    intro o i i' ho hread hi
    obtain ⟨l, hl, rfl⟩ := Slot.of_read_eq_ok_iff.1 hread
  case refine_3 => exact forall_mem_of_list Attribute.isMeasured_of_read ho hl
  all_goals exact hi

/-- A revision that is read is measured. -/
lemma Revision.isMeasured_of_read {o : Outline} {r : Revision} (ho : o.Measured)
    (h : read o = .ok r) : ∀ i ∈ r.iterations, ∀ a ∈ i.attributes, a.value.IsMeasured := by
  refine Reader.record_preserves_of_inside (P := fun r : Revision =>
    ∀ i ∈ r.iterations, ∀ a ∈ i.attributes, a.value.IsMeasured) (fun _ => ho.of_isInside) ?_
    (List.forall_mem_nil _) h
  simp only [List.forall_mem_cons]
  refine ⟨?_, ?_, ?_, ?_, ?_, ?_, ?_, ?_, ?_, ?_, by simp⟩
  all_goals
    intro o r r' ho hread hr
    obtain ⟨l, hl, rfl⟩ := Slot.of_read_eq_ok_iff.1 hread
  case refine_10 => exact forall_mem_of_list Iteration.isMeasured_of_read ho hl
  all_goals exact hr

/-- Path data that is read is measured. -/
lemma PathData.isMeasured_of_read {o : Outline} {p : PathData} (ho : o.Measured)
    (h : read o = .ok p) : ∀ i ∈ p.iterations, ∀ a ∈ i.attributes, a.value.IsMeasured := by
  refine Reader.record_preserves_of_inside (P := fun p : PathData =>
    ∀ i ∈ p.iterations, ∀ a ∈ i.attributes, a.value.IsMeasured) (fun _ => ho.of_isInside) ?_
    (List.forall_mem_nil _) h
  simp only [List.forall_mem_cons]
  refine ⟨?_, ?_, ?_, by simp⟩
  all_goals
    intro o p p' ho hread hp
    obtain ⟨l, hl, rfl⟩ := Slot.of_read_eq_ok_iff.1 hread
  case refine_3 => exact forall_mem_of_list PathIteration.isMeasured_of_read ho hl
  all_goals exact hp

/-- A dataset that is read is measured. -/
theorem Dataset.isMeasured_of_ofJson {text : String} {d : Dataset} (h : ofJson text = .ok d) :
    d.IsMeasured := by
  obtain ⟨o, ho, hread⟩ := Json.invariant_measured.exists_of_readDocument h
  refine Reader.record_preserves_of_inside (P := IsMeasured) (fun _ => ho.of_isInside) ?_
    ⟨List.forall_mem_nil _, List.forall_mem_nil _⟩ hread
  simp only [List.forall_mem_cons]
  refine ⟨?_, ?_, ?_, by simp⟩
  all_goals
    intro o d d' ho hread hd
    obtain ⟨l, hl, rfl⟩ := Slot.of_read_eq_ok_iff.1 hread
  case refine_1 => exact ⟨forall_mem_of_list Revision.isMeasured_of_read ho hl, hd.pathData⟩
  case refine_2 => exact ⟨hd.revisions, forall_mem_of_list PathData.isMeasured_of_read ho hl⟩
  case refine_3 => exact ⟨hd.revisions, hd.pathData⟩

end PartQuery
