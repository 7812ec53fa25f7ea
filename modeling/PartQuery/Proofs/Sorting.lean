import Mathlib.Data.String.Basic
import Mathlib.Tactic.Lemma
import PartQuery.Order
import PartQuery.Part.Dataset

/-!
# Answers in order

An answer is a list in which every element comes strictly before those that follow it, so nothing is
in it twice, and it is determined by the set of its elements. Texts are ordered by their code
points, and the keys of revisions by workspace, number and version in turn.
-/

namespace PartQuery

/-! ## Sorting -/

section Sorting

variable {α : Type} [Ord α] [Std.TransOrd α]

/-- Every element comes before all that follow it. -/
def Ascending (l : List α) : Prop :=
  l.Pairwise fun a b => compare a b = .lt

/-- Nothing comes before itself. -/
lemma compare_self_ne_lt (a : α) : compare a a ≠ .lt := by
  rw [Std.ReflOrd.compare_self]
  exact Ordering.noConfusion

/-- Nothing is in a sorted list twice. -/
lemma Ascending.nodup {l : List α} (h : Ascending l) : l.Nodup := by
  refine h.imp ?_
  rintro a b hlt rfl
  exact compare_self_ne_lt a hlt

/-- A sorted list is determined by its elements. -/
lemma Ascending.eq_of_mem_iff {l m : List α} (hl : Ascending l) (hm : Ascending m)
    (h : ∀ x, x ∈ l ↔ x ∈ m) : l = m := by
  have hperm : l.Perm m := (List.perm_ext_iff_of_nodup hl.nodup hm.nodup).2 h
  refine hperm.eq_of_pairwise ?_ hl hm
  intro a b _ _ hab hba
  exact absurd (Std.TransCmp.lt_trans hab hba) (compare_self_ne_lt a)

variable [Std.LawfulEqOrd α]

omit [Std.TransOrd α] in
/-- What is put into a sorted list comes after everything that its elements come after. -/
lemma forall_mem_insertSorted {a b : α} {l : List α} (hb : compare b a = .lt)
    (hl : ∀ c ∈ l, compare b c = .lt) : ∀ c ∈ insertSorted a l, compare b c = .lt := by
  intro c hc
  rcases mem_insertSorted.1 hc with rfl | hc
  · exact hb
  · exact hl c hc

/-- A sorted list stays sorted when an element is put into it. -/
lemma ascending_insertSorted {a : α} {l : List α} (h : Ascending l) :
    Ascending (insertSorted a l) := by
  induction l with
  | nil => exact List.pairwise_singleton _ a
  | cons b rest ih =>
    obtain ⟨hb, hrest⟩ := List.pairwise_cons.1 h
    unfold insertSorted
    split
    · next hlt =>
      refine List.pairwise_cons.2 ⟨?_, h⟩
      intro c hc
      rcases List.mem_cons.1 hc with rfl | hc
      · exact hlt
      · exact Std.TransCmp.lt_trans hlt (hb c hc)
    · exact h
    · next hgt =>
      have hba : compare b a = .lt := Std.OrientedCmp.lt_of_gt hgt
      exact List.pairwise_cons.2 ⟨forall_mem_insertSorted hba hb, ih hrest⟩

/-- Sorting gives a sorted list. -/
lemma ascending_sortDistinct (l : List α) : Ascending (sortDistinct l) := by
  induction l with
  | nil => exact List.Pairwise.nil
  | cons a l ih => exact ascending_insertSorted ih

end Sorting

/-! ## Texts -/

/-- The code points of a text. -/
def codePoints (s : String) : List Nat :=
  s.toList.map Char.toNat

/-- Texts that are ordered one way have code points that are ordered the same way. -/
lemma strictMono_codePoints : StrictMono codePoints := by
  intro s t h
  exact List.map_lt (fun _ _ hlt => hlt) (String.lt_iff_toList_lt.1 h)

/-- Texts compare as their code points do, the first that differ deciding. -/
lemma compare_eq_lt_iff_codePoints {s t : String} :
    compare s t = .lt ↔ codePoints s < codePoints t := by
  rw [compare_lt_iff_lt]
  exact strictMono_codePoints.lt_iff_lt.symm

/-! ## Keys -/

namespace RevisionKey

/-- A key comes before another by its workspace, then its number, then its version, each by code
points. -/
def Precedes (a b : RevisionKey) : Prop :=
  [codePoints a.workspace, codePoints a.number, codePoints a.version] <
    [codePoints b.workspace, codePoints b.number, codePoints b.version]

/-- Comparing keys is comparing their parts in turn. -/
lemma compare_eq_compareLex :
    (Ord.compare : RevisionKey → RevisionKey → Ordering) =
      compareLex (compareLex (compareOn workspace) (compareOn number)) (compareOn version) :=
  rfl

instance : Std.TransOrd RevisionKey := by
  unfold Std.TransOrd
  rw [compare_eq_compareLex]
  infer_instance

instance : Std.LawfulEqOrd RevisionKey where
  eq_of_compare {a b} h := by
    obtain ⟨workspace, number, version⟩ := a
    obtain ⟨workspace', number', version'⟩ := b
    change ((Ord.compare workspace workspace').then (Ord.compare number number')).then
      (Ord.compare version version') = .eq at h
    simp only [Ordering.then_eq_eq] at h
    obtain ⟨⟨hworkspace, hnumber⟩, hversion⟩ := h
    rw [Std.LawfulEqOrd.eq_of_compare hworkspace, Std.LawfulEqOrd.eq_of_compare hnumber,
      Std.LawfulEqOrd.eq_of_compare hversion]

/-- Keys compare by the code points of their parts. -/
lemma compare_eq_lt_iff_precedes {a b : RevisionKey} :
    Ord.compare a b = .lt ↔ a.Precedes b := by
  change ((Ord.compare a.workspace b.workspace).then (Ord.compare a.number b.number)).then
    (Ord.compare a.version b.version) = .lt ↔ _
  have hequal : ∀ {s t : String}, Ord.compare s t = .eq ↔ codePoints s = codePoints t := by
    intro s t
    rw [Std.LawfulEqOrd.compare_eq_iff_eq, strictMono_codePoints.injective.eq_iff]
  simp only [Precedes, Ordering.then_eq_lt, Ordering.then_eq_eq, compare_eq_lt_iff_codePoints,
    hequal, List.cons_lt_cons_iff, List.not_lt_nil, and_false, or_false]
  tauto

end RevisionKey

end PartQuery
