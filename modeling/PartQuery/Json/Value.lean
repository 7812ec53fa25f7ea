/-!
# Writing JSON

Rules, queries and configurations are written without spaces. Between quotes only the quote, the
backslash and the control characters are escaped.
-/

namespace PartQuery.Json

/-- A value that is written. -/
inductive Value where
  | null
  | natural (n : Nat)
  | text (s : String)
  | array (elements : List Value)
  | object (members : List (String × Value))
deriving Inhabited

/-- One character as it stands between quotes. -/
def escapedChar (c : Char) : List Char :=
  if c = '"' ∨ c = '\\' then ['\\', c]
  else if c = '\x08' then ['\\', 'b']
  else if c = '\x0c' then ['\\', 'f']
  else if c = '\n' then ['\\', 'n']
  else if c = '\r' then ['\\', 'r']
  else if c = '\t' then ['\\', 't']
  else if c.toNat < 0x20 then
    ['\\', 'u', '0', '0', Nat.digitChar (c.toNat / 16), Nat.digitChar (c.toNat % 16)]
  else [c]

/-- A text between quotes. -/
def writeText (s : String) : List Char :=
  '"' :: s.toList.flatMap escapedChar ++ ['"']

namespace Value

mutual

/-- The characters of a value. -/
def write : Value → List Char
  | null => "null".toList
  | natural n => Nat.toDigits 10 n
  | text s => writeText s
  | array elements => '[' :: writeElements elements ++ [']']
  | object members => '\x7b' :: writeMembers members ++ ['\x7d']

/-- The characters of the elements of an array, separated by commas. -/
def writeElements : List Value → List Char
  | [] => []
  | [v] => v.write
  | v :: rest => v.write ++ ',' :: writeElements rest

/-- The characters of the members of an object, separated by commas. -/
def writeMembers : List (String × Value) → List Char
  | [] => []
  | [(key, v)] => writeText key ++ ':' :: v.write
  | (key, v) :: rest => writeText key ++ ':' :: v.write ++ ',' :: writeMembers rest

end

/-- The text of a value. -/
def render (v : Value) : String :=
  String.ofList v.write

/-- A text, or null in its place. -/
def nullable {α : Type} (f : α → Value) : Option α → Value
  | some a => f a
  | none => null

end Value

end PartQuery.Json
