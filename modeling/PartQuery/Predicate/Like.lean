import PartQuery.Text.Lowercase

/-!
# Patterns

A text can be asked to contain, begin with or end with another. In the database the same question is
a pattern in which a percent sign stands for any characters and an underscore for any one; both are
escaped where they are meant as they are.
-/

namespace PartQuery

/-- Where in a text the other must stand. -/
inductive LikeMode where
  | contains
  | beginsWith
  | endsWith
deriving DecidableEq, Repr

namespace LikeMode

/-- Whether `needle` stands somewhere in `s`. -/
def occurs (needle : List Char) : List Char → Bool
  | [] => needle.isEmpty
  | c :: rest => needle.isPrefixOf (c :: rest) || occurs needle rest

/-- Whether `needle` stands in `s` where the mode says. -/
def holds (mode : LikeMode) (needle s : List Char) : Bool :=
  match mode with
  | contains => occurs needle s
  | beginsWith => needle.isPrefixOf s
  | endsWith => needle.isSuffixOf s

/-- One character as a pattern that only it meets. -/
def literalChar (c : Char) : List Char :=
  if c = '\\' ∨ c = '%' ∨ c = '_' then ['\\', c] else [c]

/-- The pattern that the same texts meet. -/
def pattern (mode : LikeMode) (needle : String) : String :=
  let literal := needle.toList.flatMap literalChar
  String.ofList <|
    match mode with
    | contains => '%' :: literal ++ ['%']
    | beginsWith => literal ++ ['%']
    | endsWith => '%' :: literal

end LikeMode

end PartQuery
