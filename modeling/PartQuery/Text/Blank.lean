import PartQuery.Text.CodePoints

/-!
# Blank characters

The characters that trimming removes are those with the Unicode property `White_Space`. Dates,
numbers and truth values are read after trimming, and a command line is split at them.
-/

namespace PartQuery.Text

/-- The code points with the property `White_Space`. -/
def blankCodePoints : CodePoints :=
  [(0x9, 0xD), (0x20, 0x20), (0x85, 0x85), (0xA0, 0xA0), (0x1680, 0x1680), (0x2000, 0x200A),
    (0x2028, 0x2029), (0x202F, 0x202F), (0x205F, 0x205F), (0x3000, 0x3000)]

/-- Whether a character is blank. -/
def isBlank (c : Char) : Bool :=
  blankCodePoints.has c

/-- The text without the blanks it begins with. -/
def dropBlanks (s : List Char) : List Char :=
  s.dropWhile isBlank

/-- The text without the blanks at its two ends. -/
def trimChars (s : List Char) : List Char :=
  (dropBlanks (dropBlanks s).reverse).reverse

/-- No blanks are dropped from a text that begins with none. -/
theorem dropBlanks_eq_self {s : List Char} (h : ∀ c ∈ s.head?, isBlank c = false) :
    dropBlanks s = s := by
  cases s with
  | nil => rfl
  | cons c r => simp [dropBlanks, h c (by simp)]

/-- A text that neither begins nor ends with a blank is left as it is. -/
theorem trimChars_eq_self {s : List Char} (first : ∀ c ∈ s.head?, isBlank c = false)
    (last : ∀ c ∈ s.getLast?, isBlank c = false) : trimChars s = s := by
  have back : dropBlanks s.reverse = s.reverse := dropBlanks_eq_self (by simpa using last)
  rw [trimChars, dropBlanks_eq_self first, back, List.reverse_reverse]

end PartQuery.Text
