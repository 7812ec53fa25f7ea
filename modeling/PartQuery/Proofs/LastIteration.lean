import PartQuery.Proofs.Negations

/-!
# The last iteration

Which iteration of a revision is the last one is told by its number and by how many iterations there
are; neither its place in the list nor the other numbers are looked at. Where the iterations are
numbered from one on without gaps, in whatever order they are listed, the number of iterations is
the greatest number and occurs once, so there is exactly one last iteration. The check-in date and
the modification date are read from there: comparisons of these dates see no other iteration, and no
rule does when it comes to these dates.

The main statement is `last_iteration_decides`.
-/

namespace PartQuery

/-! ## Numbers of iterations -/

namespace Revision

variable {r : Revision}

/-- A revision has iterations, and their numbers are those from one on, in any order. -/
structure IsNumbered (r : Revision) : Prop where
  ne_nil : r.iterations ≠ []
  perm : (r.iterations.map (·.number)).Perm (List.range' 1 r.iterations.length)

/-- An iteration is the last one exactly when its number is the number of iterations. -/
lemma isLast_iff {i : Iteration} : r.isLast i = true ↔ i.number = r.iterations.length := by
  rw [isLast, beq_iff_eq]

/-- All iterations that are the last one have the same number. -/
lemma map_number_filter_isLast (r : Revision) :
    (r.iterations.filter r.isLast).map (·.number) =
      List.replicate (r.iterations.filter r.isLast).length r.iterations.length := by
  rw [List.eq_replicate_iff]
  refine ⟨List.length_map _, fun n hn => ?_⟩
  obtain ⟨i, hi, rfl⟩ := List.mem_map.1 hn
  exact isLast_iff.1 (List.mem_filter.1 hi).2

/-- No two iterations with different numbers are both the last one. -/
lemma length_filter_isLast_le_one (h : (r.iterations.map (·.number)).Nodup) :
    (r.iterations.filter r.isLast).length ≤ 1 := by
  have hsub : ((r.iterations.filter r.isLast).map (·.number)).Sublist
      (r.iterations.map (·.number)) := List.filter_sublist.map _
  -- Numbers that are different and all the same are one at most.
  have hnodup := h.sublist hsub
  rwa [map_number_filter_isLast, List.nodup_replicate] at hnodup

namespace IsNumbered

variable {i : Iteration}

/-- No iteration has a number beyond the number of iterations. -/
lemma number_le (h : r.IsNumbered) (hi : i ∈ r.iterations) : i.number ≤ r.iterations.length := by
  have hmem := h.perm.mem_iff.1 (List.mem_map_of_mem hi)
  rw [List.mem_range'_1] at hmem
  omega

/-- The iterations have different numbers. -/
lemma nodup (h : r.IsNumbered) : (r.iterations.map (·.number)).Nodup :=
  h.perm.nodup_iff.2 List.nodup_range'

/-- Exactly one iteration is the last one. -/
lemma exists_filter_isLast_eq (h : r.IsNumbered) :
    ∃ last, r.iterations.filter r.isLast = [last] := by
  have hpos : 0 < r.iterations.length := List.length_pos_iff.2 h.ne_nil
  have hgreatest : r.iterations.length ∈ List.range' 1 r.iterations.length := by
    rw [List.mem_range'_1]
    omega
  obtain ⟨i, hi, hnumber⟩ := List.mem_map.1 (h.perm.mem_iff.2 hgreatest)
  have hfound : i ∈ r.iterations.filter r.isLast :=
    List.mem_filter.2 ⟨hi, isLast_iff.2 hnumber⟩
  have hone : (r.iterations.filter r.isLast).length = 1 := by
    have hsome := List.length_pos_of_mem hfound
    have hmost := length_filter_isLast_le_one h.nodup
    omega
  exact List.length_eq_one_iff.1 hone

end IsNumbered

/-- If one iteration is the last one and no other, it is one of the iterations. -/
lemma mem_of_filter_eq {last : Iteration} (h : r.iterations.filter r.isLast = [last]) :
    last ∈ r.iterations ∧ r.isLast last = true := by
  rw [← List.mem_filter, h]
  exact List.mem_cons_self

/-- If one iteration is the last one and no other, being the last one is being that iteration. -/
lemma isLast_iff_eq_of_filter_eq {last i : Iteration}
    (h : r.iterations.filter r.isLast = [last]) (hi : i ∈ r.iterations) :
    r.isLast i = true ↔ i = last := by
  have hfound : i ∈ r.iterations.filter r.isLast ↔ i = last := by rw [h, List.mem_singleton]
  rw [← hfound, List.mem_filter]
  exact (and_iff_right hi).symm

end Revision

/-! ## Dates of the last iteration -/

/-- A field is one of the two dates that are read from the last iteration. -/
inductive Field.IsDateOfLast : Field → (Iteration → Option Instant) → Prop
  | checkInDate : IsDateOfLast (.revision .checkInDate) Iteration.checkInDate
  | modificationDate : IsDateOfLast (.revision .modificationDate) Iteration.modificationDate

namespace Field.IsDateOfLast

variable {field : Field} {date? : Iteration → Option Instant}

/-- Such a field holds dates. -/
lemma valueKind_eq (h : field.IsDateOfLast date?) : field.valueKind = .date := by
  cases h <;> rfl

/-- Such a field holds the date of an iteration that is the last one. -/
lemma holds_iff (h : field.IsDateOfLast date?) {r : Revision} {i : Iteration} {v : Scalar} :
    field.Holds r i v ↔ r.isLast i = true ∧ ∃ t, date? i = some t ∧ v = .date t := by
  rw [Revision.isLast_iff]
  cases h <;> exact Iff.rfl

/-- A test of such a field holds of a revision exactly when the date of its last iteration is set
and passes. -/
lemma holdsOf_iff (h : field.IsDateOfLast date?) {r : Revision} {last : Iteration}
    (hlast : r.iterations.filter r.isLast = [last]) {test : ValueTest} (htest : test.IsOfValues) :
    (Predicate.compare field test).holdsOf r = true ↔
      ∃ t, date? last = some t ∧ test.passes (.date t) = true := by
  rw [Predicate.holdsOf_iff]
  simp only [Predicate.holds_compare, Row.compares_iff_offers htest, Row.offers_row_iff,
    h.holds_iff]
  constructor
  · rintro ⟨i, hi, v, ⟨hisLast, t, hdate, rfl⟩, hpasses⟩
    obtain rfl := (Revision.isLast_iff_eq_of_filter_eq hlast hi).1 hisLast
    exact ⟨t, hdate, hpasses⟩
  · rintro ⟨t, hdate, hpasses⟩
    obtain ⟨hmem, hisLast⟩ := Revision.mem_of_filter_eq hlast
    exact ⟨last, hmem, _, ⟨hisLast, t, hdate, rfl⟩, hpasses⟩

end Field.IsDateOfLast

/-- A comparison of a field that holds dates compiles to a test of values. -/
lemma Comparison.exists_isOfValues {ctx : CompileContext} {c : Comparison} {field : Field}
    (hname : Field.ofName? c.field = some field) (hdate : field.valueKind = .date) {p : Predicate}
    (hp : (Rule.leaf c).compile ctx = .ok p) :
    ∃ test, p = .compare field test ∧ test.IsOfValues := by
  rw [Rule.compile] at hp
  obtain ⟨found, test, hfound, -, htest, rfl⟩ := compile_eq_ok_iff.1 hp
  obtain rfl : found = field := Option.some.inj (hfound.symm.trans hname)
  have htested := tested_of_test htest
  rw [hdate] at htested
  cases htested with
  | value hread hkinds hmakes => exact ⟨test, rfl, hmakes.isOfValues⟩

/-! ## Dates of other iterations -/

/-- Two iterations agree on everything but the check-in date and the modification date. -/
def Iteration.Redated (i j : Iteration) : Prop :=
  ∃ checkIn modification, j = { i with checkInDate := checkIn, modificationDate := modification }

/-- Changing dates can be undone. -/
lemma Iteration.Redated.symm {i j : Iteration} (h : i.Redated j) : j.Redated i := by
  obtain ⟨checkIn, modification, rfl⟩ := h
  exact ⟨i.checkInDate, i.modificationDate, rfl⟩

/-- The iterations of a revision may have got other dates, but not the last one. -/
def Revision.RedatedTo (r : Revision) (iterations : List Iteration) : Prop :=
  List.Forall₂ (fun i j => i.Redated j ∧ (r.isLast i = true → j = i)) r.iterations iterations

namespace Revision.RedatedTo

variable {r : Revision} {iterations : List Iteration}

/-- There are still as many iterations. -/
lemma length_eq (h : r.RedatedTo iterations) : r.iterations.length = iterations.length :=
  List.Forall₂.length_eq h

/-- Changing dates of other iterations can be undone, as the last one is still the last one. -/
lemma symm (h : r.RedatedTo iterations) :
    RedatedTo { r with iterations := iterations } r.iterations := by
  have hlength := h.length_eq
  refine (List.Forall₂.flip h).imp fun j i hij => ?_
  obtain ⟨hdates, hkept⟩ := hij
  refine ⟨hdates.symm, fun hlast => (hkept ?_).symm⟩
  obtain ⟨checkIn, modification, rfl⟩ := hdates
  rw [isLast_iff] at hlast ⊢
  exact hlast.trans hlength.symm

end Revision.RedatedTo

/-- What a field holds in an iteration it goes on holding when the iteration gets other dates,
unless it is the last one. -/
lemma Field.holds_of_redated {r : Revision} {iterations : List Iteration}
    (hlength : r.iterations.length = iterations.length) {i j : Iteration} (hdates : i.Redated j)
    (hkept : r.isLast i = true → j = i) {field : Field} {v : Scalar} (hv : field.Holds r i v) :
    field.Holds { r with iterations := iterations } j v := by
  refine holds_of_iteration (fun _ _ _ => ?_) (fun _ hnumber => ?_) hv
  · obtain ⟨checkIn, modification, rfl⟩ := hdates
    exact List.Subset.refl _
  · obtain rfl := hkept (Revision.isLast_iff.2 hnumber)
    exact ⟨hnumber.trans hlength, rfl, rfl⟩

namespace Predicate

/-- A predicate that holds of a revision holds of it when other iterations than the last have got
other dates. -/
lemma holdsOf_of_redatedTo {p : Predicate} {r : Revision} {iterations : List Iteration}
    (h : r.RedatedTo iterations) (hholds : p.holdsOf r = true) :
    p.holdsOf { r with iterations := iterations } = true := by
  rw [holdsOf_iff] at hholds ⊢
  obtain ⟨i, hi, hheld⟩ := hholds
  obtain ⟨j, hj, hdates, hkept⟩ := exists_right_of_mem_left h hi
  have hwithin : p.Everywhere fun field _ =>
      (i.row r).Within (j.row { r with iterations := iterations }) field := by
    refine everywhere_of_forall (fun field _ => ⟨rfl, fun v hv => ?_⟩) p
    rw [Row.offers_row_iff] at hv ⊢
    exact Field.holds_of_redated h.length_eq hdates hkept hv
  exact ⟨j, hj, hwithin.holds_of_within hheld⟩

/-- A predicate does not see the dates of other iterations than the last. -/
lemma holdsOf_eq_of_redatedTo (p : Predicate) {r : Revision} {iterations : List Iteration}
    (h : r.RedatedTo iterations) :
    p.holdsOf { r with iterations := iterations } = p.holdsOf r := by
  rw [Bool.eq_iff_iff]
  constructor
  · intro hholds
    have hback : p.holdsOf { { r with iterations := iterations } with iterations := r.iterations } =
        true := holdsOf_of_redatedTo h.symm hholds
    exact hback
  · intro hholds
    exact holdsOf_of_redatedTo h hholds

end Predicate

/-- If the iterations of a revision are numbered from one on, in any order, exactly one of them is
the last one, which has the greatest number. A comparison of the check-in date or the modification
date, once compiled, matches the revision exactly when that iteration has the date and it passes.
Whatever the numbers, what a rule has been compiled to matches as before when other iterations than
the last get other dates; and if the numbers are different, at most one iteration is the last one.
-/
theorem last_iteration_decides (r : Revision) :
    (r.IsNumbered → ∃ last, r.iterations.filter r.isLast = [last] ∧
      (∀ i ∈ r.iterations, i.number ≤ last.number) ∧
      ∀ (ctx : CompileContext) (c : Comparison) (field : Field)
        (date? : Iteration → Option Instant), field.IsDateOfLast date? →
        Field.ofName? c.field = some field →
        ∀ p, (Rule.leaf c).compile ctx = .ok p → ∃ test, p = .compare field test ∧
          (p.holdsOf r = true ↔ ∃ t, date? last = some t ∧ test.passes (.date t) = true)) ∧
    (∀ (p : Predicate) (iterations : List Iteration), r.RedatedTo iterations →
      p.holdsOf { r with iterations := iterations } = p.holdsOf r) ∧
    ((r.iterations.map (·.number)).Nodup → (r.iterations.filter r.isLast).length ≤ 1) := by
  refine ⟨fun h => ?_, ?_, Revision.length_filter_isLast_le_one⟩
  · obtain ⟨last, hlast⟩ := h.exists_filter_isLast_eq
    refine ⟨last, hlast, ?_, ?_⟩
    · intro i hi
      have hnumber := Revision.isLast_iff.1 (Revision.mem_of_filter_eq hlast).2
      rw [hnumber]
      exact h.number_le hi
    · intro ctx c field date? hfield hname p hp
      obtain ⟨test, rfl, htest⟩ := Comparison.exists_isOfValues hname hfield.valueKind_eq hp
      exact ⟨test, rfl, hfield.holdsOf_iff hlast htest⟩
  · intro p iterations hdates
    exact p.holdsOf_eq_of_redatedTo hdates

/-- A bell whose second iteration is listed first and was checked in at noon. -/
def relistedBell : Revision :=
  firstVersion "home" "bell" [⟨2, some noon, none, []⟩, ⟨1, none, none, []⟩]

/-- The same iterations, of which the first has got a date. -/
def redatedIterations : List Iteration :=
  [⟨2, some noon, none, []⟩, ⟨1, some default, none, []⟩]

/-- The bell is found by the date of its second iteration, and a date of the first does not count.
-/
theorem relistedBell_found :
    (relistedBell.IsNumbered ∧ relistedBell.RedatedTo redatedIterations) ∧
    (relistedBell.iterations.filter relistedBell.isLast).length = 1 ∧
    ∃ p, (Rule.leaf ⟨"pr.checkInDate", .equal, ["2024-03-01"], .date⟩).compile
        ⟨.revision, Offset.zero⟩ = .ok p ∧
      p.holdsOf relistedBell = true ∧
      p.holdsOf { relistedBell with iterations := redatedIterations } = true := by
  have hnumbered : relistedBell.IsNumbered := ⟨by decide, by decide⟩
  have hdates : relistedBell.RedatedTo redatedIterations :=
    .cons ⟨⟨_, _, rfl⟩, fun _ => rfl⟩ (.cons ⟨⟨_, _, rfl⟩, nofun⟩ .nil)
  obtain ⟨hlast, hredated, -⟩ := last_iteration_decides relistedBell
  obtain ⟨last, hone, -, hleaf⟩ := hlast hnumbered
  obtain rfl : ⟨2, some noon, none, []⟩ = last := (List.cons.inj hone).1
  let start := (Instant.of? 739251 0 0).get (by decide)
  let stop := (Instant.of? 739252 0 0).get (by decide)
  have hp : (Rule.leaf ⟨"pr.checkInDate", .equal, ["2024-03-01"], .date⟩).compile
      ⟨.revision, Offset.zero⟩ =
      .ok (.compare (.revision .checkInDate) (.dayWindow start stop)) := rfl
  obtain ⟨test, htest, hholds⟩ := hleaf _ _ _ _ .checkInDate rfl _ hp
  obtain ⟨-, rfl⟩ := Predicate.compare.inj htest
  have hmatch := hholds.2 ⟨noon, rfl, by decide⟩
  exact ⟨⟨hnumbered, hdates⟩, by rw [hone]; rfl, _, hp, hmatch, (hredated _ _ hdates).trans hmatch⟩

end PartQuery
