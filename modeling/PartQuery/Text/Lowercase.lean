import PartQuery.Text.LetterCase

/-!
# Lower-casing

Texts are lower-cased as a whole before a pattern is looked for in them. Two letters do not follow
the simple mapping: a capital I with a dot becomes an i and a combining dot, and a capital sigma
that ends a word becomes the final sigma. A sigma ends a word when a letter stands before it and
none after it, where characters that carry no case of their own are looked past.
-/

namespace PartQuery.Text

/-- Whether the first character that is not looked past is a letter. -/
def meetsLetter (s : List Char) : Bool :=
  match s.dropWhile isCaseIgnorable with
  | [] => false
  | c :: _ => isCased c

/-- What one character becomes, between the text before it (nearest first) and the text after. -/
def lowerChar (before : List Char) (c : Char) (after : List Char) : List Char :=
  if c = 'Σ' then
    if meetsLetter before && !meetsLetter after then ['ς'] else ['σ']
  else if c = 'İ' then ['i', '\u0307']
  else [smallLetter c]

/-- Lower-cases a text, given what stands before it (nearest first). -/
def lowerAfter (before : List Char) : List Char → List Char
  | [] => []
  | c :: after => lowerChar before c after ++ lowerAfter (c :: before) after

/-- The text in lower case. -/
def lowerChars (s : List Char) : List Char :=
  lowerAfter [] s

/-- The text in lower case. -/
def lower (s : String) : String :=
  String.ofList (lowerChars s.toList)

@[simp] theorem toList_lower (s : String) : (lower s).toList = lowerChars s.toList := by
  simp [lower]

end PartQuery.Text
