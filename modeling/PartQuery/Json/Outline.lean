import PartQuery.Number.Binary64

/-!
# Outlines of JSON documents

A document is read once, from left to right, and the first problem met decides how reading fails.
What counts as a problem depends on who reads: a part that nobody asks for is only skipped, and then
the range of its numbers, the pairing of its surrogates and the depth of its nesting do not matter.

So a text is first turned into its *outline*, the tree of what stands where, problems included.
Every reader then walks the outline in the order of the text and meets the problems that concern it.
-/

namespace PartQuery.Json

/-- Why a document is refused. -/
inductive Fault where
  /-- The text ends too early. -/
  | truncated
  /-- The text is not JSON, or not a JSON that can be held. -/
  | malformed
  /-- The text is JSON of another shape than the reader wants. -/
  | mismatch
deriving DecidableEq, Repr, Inhabited

/-- What is wrong with a number or a text: the fault of one who reads it, and the fault of one who
skips it, if skipping fails too. -/
structure Flaw where
  reading : Fault
  skipping : Option Fault
deriving DecidableEq, Repr

/-- A number as documents hold it. -/
inductive Number where
  /-- A whole number of 64 bits, with or without sign. -/
  | whole (n : Int)
  /-- Any other number. -/
  | real (x : Binary64)
deriving DecidableEq, Repr

/-- How the elements of an array or the members of an object come to their end. -/
inductive Ending where
  /-- With the closing bracket. -/
  | closed
  /-- With a fault, in place of a comma or bracket. -/
  | stopped (fault : Fault)
deriving DecidableEq, Repr

/-- The outline of a value. A member without a colon is kept with the outline of a value that is
missing, and an array that breaks off ends in one. -/
inductive Outline where
  | null
  | boolean (b : Bool)
  | number (n : Except Flaw Number)
  | text (s : Except Flaw String)
  /-- An array; `level` counts the arrays and objects that are open inside it. -/
  | array (level : Nat) (elements : List Outline) (ending : Ending)
  /-- An object; `level` counts the arrays and objects that are open inside it. -/
  | object (level : Nat) (members : List (Except Flaw String × Outline)) (ending : Ending)
  /-- Something stands here that is no value. -/
  | broken (fault : Fault)
  /-- The text ends here. -/
  | absent

namespace Ending

/-- Passes only the closing bracket. -/
def check : Ending → Except Fault Unit
  | closed => .ok ()
  | stopped fault => .error fault

end Ending

/-- How many arrays and objects may be open at once for a reader. -/
def depthLimit : Nat :=
  127

/-- Refuses what is nested too deeply to be read. -/
def checkLevel (level : Nat) : Except Fault Unit :=
  if level ≤ depthLimit then .ok () else .error .malformed

/-- What one who reads a number or a text finds. -/
def readPart {α : Type} : Except Flaw α → Except Fault α
  | .ok a => .ok a
  | .error flaw => .error flaw.reading

/-- Skips a number or a text. -/
def skipPart {α : Type} : Except Flaw α → Except Fault Unit
  | .ok _ => .ok ()
  | .error flaw => flaw.skipping.elim (.ok ()) .error

namespace Outline

/-- The fault of a reader that wants a value of another kind than stands here. An array or object is
refused as it opens; anything else is read to its end first. -/
def otherKind : Outline → Fault
  | number (.error flaw) => flaw.reading
  | text (.error flaw) => flaw.reading
  | broken fault => fault
  | absent => .truncated
  | _ => .mismatch

mutual

/-- Skips a value that nobody asked for. -/
def skip : Outline → Except Fault Unit
  | null => .ok ()
  | boolean _ => .ok ()
  | number n => skipPart n
  | text s => skipPart s
  | array _ elements ending => do
    skipElements elements
    ending.check
  | object _ members ending => do
    skipMembers members
    ending.check
  | broken fault => .error fault
  | absent => .error .truncated

/-- Skips the elements of an array. -/
def skipElements : List Outline → Except Fault Unit
  | [] => .ok ()
  | o :: rest => do
    o.skip
    skipElements rest

/-- Skips the members of an object. -/
def skipMembers : List (Except Flaw String × Outline) → Except Fault Unit
  | [] => .ok ()
  | (key, value) :: rest => do
    skipPart key
    value.skip
    skipMembers rest

end

mutual

/-- Reads a value of any kind, to be looked at later. -/
def check : Outline → Except Fault Unit
  | null => .ok ()
  | boolean _ => .ok ()
  | number n => do
    let _ ← readPart n
  | text s => do
    let _ ← readPart s
  | array level elements ending => do
    checkLevel level
    checkElements elements
    ending.check
  | object level members ending => do
    checkLevel level
    checkMembers members
    ending.check
  | broken fault => .error fault
  | absent => .error .truncated

/-- Reads the elements of an array, of any kind. -/
def checkElements : List Outline → Except Fault Unit
  | [] => .ok ()
  | o :: rest => do
    o.check
    checkElements rest

/-- Reads the members of an object, of any kind. -/
def checkMembers : List (Except Flaw String × Outline) → Except Fault Unit
  | [] => .ok ()
  | (key, value) :: rest => do
    let _ ← readPart key
    value.check
    checkMembers rest

end

end Outline

end PartQuery.Json
