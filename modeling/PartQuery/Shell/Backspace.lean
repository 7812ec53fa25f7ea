import PartQuery.Text.Cluster

/-!
# Backspaces

A backspace in a line of the shell takes back what was typed just before it, as a reader sees it:
the last cluster that is still there.
-/

namespace PartQuery.Shell

/-- What a backspace looks like in a text. -/
def backspace : Char :=
  '\x08'

/-- What is left of a line so far. -/
structure Typed where
  /-- The characters that are left, nearest first. -/
  chars : List Char := []
  /-- How many bytes each further backspace takes off, nearest first. -/
  sizes : List Nat := []

namespace Typed

/-- How many bytes some characters take. -/
def byteCount : List Char → Nat
  | [] => 0
  | c :: rest => c.utf8Size + byteCount rest

/-- How many bytes a backspace takes off to take a cluster back. A single byte holds the count, so
of a cluster of 256 bytes or more it takes off the remainder. -/
def size (cluster : List Char) : Nat :=
  byteCount cluster % 256

/-- Takes as many characters off the front as fit into a number of bytes. -/
def dropBytes : Nat → List Char → List Char
  | _, [] => []
  | n, c :: rest => if c.utf8Size ≤ n then dropBytes (n - c.utf8Size) rest else c :: rest

/-- What is left after one more cluster. -/
def add (t : Typed) (cluster : List Char) : Typed :=
  if cluster = [backspace] then
    match t.sizes with
    | [] => t
    | n :: sizes => { chars := dropBytes n t.chars, sizes := sizes }
  else { chars := cluster.reverse ++ t.chars, sizes := size cluster :: t.sizes }

end Typed

/-- What is left of a line. -/
def applyBackspaces (line : String) : String :=
  String.ofList ((Text.clusters line.toList).foldl Typed.add {}).chars.reverse

end PartQuery.Shell
