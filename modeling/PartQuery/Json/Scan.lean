import PartQuery.Json.Numeral
import PartQuery.Json.Quotation

/-!
# From a text to its outline

Each function reads one part of the outline off the front of a text and gives what follows it, or
nothing when the text cannot be read past this part. The recursion is bounded by a measure, which
drops by at most three for each character taken off.
-/

namespace PartQuery.Json

/-- Whether a character may stand between the parts of a document. -/
def isSpace (c : Char) : Bool :=
  c == ' ' || c == '\t' || c == '\n' || c == '\r'

/-- The text without the spaces it begins with. -/
def dropSpace (s : List Char) : List Char :=
  s.dropWhile isSpace

/-- Reads the rest of a word; the text is cut off when it ends inside the word. -/
def scanWord (value : Outline) : List Char → List Char → Outline × Option (List Char)
  | [], s => (value, some s)
  | _ :: _, [] => (.broken .truncated, none)
  | c :: word, x :: rest => if x = c then scanWord value word rest else (.broken .malformed, none)

/-- Whether a number may begin with this character. -/
def beginsNumber (c : Char) : Bool :=
  c == '-' || c.isDigit

mutual

/-- The value at the front of a text, inside of `level` open arrays and objects. -/
def scanValue (level : Nat) : Nat → List Char → Outline × Option (List Char)
  | 0, _ => (.absent, none)
  | bound + 1, s =>
    match dropSpace s with
    | [] => (.absent, none)
    | c :: rest =>
      if c = '"' then
        let (content, after) := scanText rest
        (.text content, after)
      else if c = '[' then
        let (elements, ending, after) := scanArray (level + 1) bound rest
        (.array (level + 1) elements ending, after)
      else if c = '\x7b' then
        let (members, ending, after) := scanObject (level + 1) bound rest
        (.object (level + 1) members ending, after)
      else if beginsNumber c then
        let (value, after) := scanNumber (c :: rest)
        (.number value, after)
      else if c = 'n' then scanWord .null "ull".toList rest
      else if c = 't' then scanWord (.boolean true) "rue".toList rest
      else if c = 'f' then scanWord (.boolean false) "alse".toList rest
      else (.broken .malformed, none)

/-- What follows the bracket that opens an array. -/
def scanArray (level : Nat) :
    Nat → List Char → List Outline × Ending × Option (List Char)
  | 0, _ => ([], .stopped .truncated, none)
  | bound + 1, s =>
    match dropSpace s with
    | [] => ([], .stopped .truncated, none)
    | ']' :: rest => ([], .closed, some rest)
    | rest => scanElements level bound rest

/-- One element of an array and all that follow. -/
def scanElements (level : Nat) :
    Nat → List Char → List Outline × Ending × Option (List Char)
  | 0, _ => ([], .stopped .truncated, none)
  | bound + 1, s =>
    match scanValue level bound s with
    | (value, none) => ([value], .stopped .truncated, none)
    | (value, some rest) =>
      match dropSpace rest with
      | [] => ([value], .stopped .truncated, none)
      | ']' :: rest => ([value], .closed, some rest)
      | ',' :: rest =>
        let (elements, ending, after) := scanElements level bound rest
        (value :: elements, ending, after)
      | _ => ([value], .stopped .malformed, none)

/-- What follows the brace that opens an object. -/
def scanObject (level : Nat) :
    Nat → List Char → List (Except Flaw String × Outline) × Ending × Option (List Char)
  | 0, _ => ([], .stopped .truncated, none)
  | bound + 1, s =>
    match dropSpace s with
    | [] => ([], .stopped .truncated, none)
    | '\x7d' :: rest => ([], .closed, some rest)
    | '"' :: rest => scanMembers level bound ('"' :: rest)
    | _ => ([], .stopped .malformed, none)

/-- One member of an object and all that follow. -/
def scanMembers (level : Nat) :
    Nat → List Char → List (Except Flaw String × Outline) × Ending × Option (List Char)
  | 0, _ => ([], .stopped .truncated, none)
  | bound + 1, s =>
    match dropSpace s with
    | [] => ([(.error ⟨.truncated, some .truncated⟩, .absent)], .stopped .truncated, none)
    | '"' :: rest =>
      match scanText rest with
      | (key, none) => ([(key, .absent)], .stopped .truncated, none)
      | (key, some rest) =>
        match dropSpace rest with
        | [] => ([(key, .absent)], .stopped .truncated, none)
        | ':' :: rest =>
          match scanValue level bound rest with
          | (value, none) => ([(key, value)], .stopped .truncated, none)
          | (value, some rest) =>
            match dropSpace rest with
            | [] => ([(key, value)], .stopped .truncated, none)
            | '\x7d' :: rest => ([(key, value)], .closed, some rest)
            | ',' :: rest =>
              let (members, ending, after) := scanMembers level bound rest
              ((key, value) :: members, ending, after)
            | _ => ([(key, value)], .stopped .malformed, none)
        | _ => ([(key, .broken .malformed)], .stopped .malformed, none)
    | _ => ([(.error ⟨.malformed, some .malformed⟩, .absent)], .stopped .malformed, none)

end

/-- A measure that suffices for a text: of three steps in a row, one takes a character off. -/
def scanBound (s : List Char) : Nat :=
  3 * s.length + 3

/-- Reads a document: a value that `reader` understands, and nothing but spaces after it. -/
def readDocument {α : Type} (reader : Outline → Except Fault α) (text : String) :
    Except Fault α := do
  let (value, after) := scanValue 0 (scanBound text.toList) text.toList
  let a ← reader value
  match after with
  | some rest => if (dropSpace rest).isEmpty then .ok a else .error .malformed
  | none => .error .malformed

end PartQuery.Json
