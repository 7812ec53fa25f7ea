/-!
# Sorted lists

Answers are given in order and without repetitions. Elements are put into a sorted list one after
the other; an element that is already there is not put in again.
-/

namespace PartQuery

/-- Puts an element into a sorted list, unless it is there. -/
def insertSorted {α : Type} [Ord α] (a : α) : List α → List α
  | [] => [a]
  | b :: rest =>
    match compare a b with
    | .lt => a :: b :: rest
    | .eq => b :: rest
    | .gt => b :: insertSorted a rest

/-- The elements of a list in order and without repetitions. -/
def sortDistinct {α : Type} [Ord α] (l : List α) : List α :=
  l.foldr insertSorted []

@[simp] theorem sortDistinct_nil {α : Type} [Ord α] : sortDistinct ([] : List α) = [] := rfl

@[simp] theorem sortDistinct_cons {α : Type} [Ord α] (a : α) (l : List α) :
    sortDistinct (a :: l) = insertSorted a (sortDistinct l) := rfl

/-- Sorting neither loses nor invents elements, if only equal elements compare as equal. -/
theorem mem_insertSorted {α : Type} [Ord α] [Std.LawfulEqOrd α] {a x : α} {l : List α} :
    x ∈ insertSorted a l ↔ x = a ∨ x ∈ l := by
  induction l with
  | nil => simp [insertSorted]
  | cons b rest ih =>
    unfold insertSorted
    split
    · simp
    · next h =>
      obtain rfl := Std.LawfulEqOrd.eq_of_compare h
      simp
    · simp only [List.mem_cons, ih]
      exact or_left_comm

theorem mem_sortDistinct {α : Type} [Ord α] [Std.LawfulEqOrd α] {x : α} {l : List α} :
    x ∈ sortDistinct l ↔ x ∈ l := by
  induction l with
  | nil => simp
  | cons a l ih => simp [mem_insertSorted, ih]

end PartQuery
