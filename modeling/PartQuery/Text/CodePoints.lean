/-!
# Sets of code points

A character property is given as a list of closed intervals of code points. The tables of this
library (blank characters, cased letters, characters a message must escape, the classes that make up
clusters) are all of this form, and follow version 17.0 of the Unicode standard.
-/

namespace PartQuery.Text

/-- A set of code points, as closed intervals `(first, last)`. -/
abbrev CodePoints := List (Nat × Nat)

namespace CodePoints

/-- Whether the set holds the code point of `c`. -/
def has (set : CodePoints) (c : Char) : Bool :=
  set.any fun (first, last) => first ≤ c.toNat && c.toNat ≤ last

theorem has_iff {set : CodePoints} {c : Char} :
    set.has c = true ↔ ∃ r ∈ set, r.1 ≤ c.toNat ∧ c.toNat ≤ r.2 := by
  simp [has]

end CodePoints

end PartQuery.Text
