import PartQuery.Json.Scan

/-!
# Readers

A reader takes from the outline of a value what it wants, or tells the first fault that stands in
its way. The readers of this module are the building blocks for those of rules, queries, datasets
and configurations.
-/

namespace PartQuery.Json

/-- Takes a value of type `α` from an outline. -/
abbrev Reader (α : Type) := Outline → Except Fault α

namespace Reader

/-- A text. -/
def text : Reader String
  | .text s => readPart s
  | o => .error o.otherKind

/-- A truth value. -/
def boolean : Reader Bool
  | .boolean b => .ok b
  | o => .error o.otherKind

/-- A whole number between two bounds; a fraction, a power of ten and a negative zero are refused.
-/
def whole (least greatest : Int) : Reader Int
  | .number n => do
    match ← readPart n with
    | .whole k => if least ≤ k ∧ k ≤ greatest then .ok k else .error .mismatch
    | .real _ => .error .mismatch
  | o => .error o.otherKind

/-- A natural number below `2 ^ bits`. -/
def natural (bits : Nat) : Reader Nat := fun o => do
  return (← whole 0 (twoPow bits - 1 : Nat) o).toNat

/-- Any number. -/
def real : Reader Binary64
  | .number n => do
    match ← readPart n with
    | .whole k => .ok ⟨k < 0, (Binary64.ofNat k.natAbs).magnitude⟩
    | .real x => .ok x
  | o => .error o.otherKind

/-- A text that must have a meaning. -/
def meaning {α : Type} (interpret : String → Option α) : Reader α := fun o => do
  match interpret (← text o) with
  | some a => .ok a
  | none => .error .mismatch

/-- A null, or what `reader` takes. -/
def optional {α : Type} (reader : Reader α) : Reader (Option α)
  | .null => .ok none
  | o => (reader o).map some

/-- An array of what `item` takes. -/
def list {α : Type} (item : Reader α) : Reader (List α)
  | .array level elements ending => do
    checkLevel level
    let items ← elements.mapM item
    ending.check
    return items
  | o => .error o.otherKind

/-- The members of an object, one after the other. -/
def members {α : Type} (value : Reader α) :
    List (Except Flaw String × Outline) → Except Fault (List (String × α))
  | [] => .ok []
  | (key, o) :: rest => do
    let key ← readPart key
    let a ← value o
    return (key, a) :: (← members value rest)

/-- An object with any keys, in the order of the text; a key may be repeated. -/
def mapping {α : Type} (value : Reader α) : Reader (List (String × α))
  | .object level entries ending => do
    checkLevel level
    let pairs ← members value entries
    ending.check
    return pairs
  | o => .error o.otherKind

/-- One of the words that `interpret` knows: as a text, or as the only key of an object that holds
null. -/
def word {α : Type} (interpret : String → Option α) : Reader α
  | .text s => meaning interpret (.text s)
  | .object level [] ending => do
    checkLevel level
    ending.check
    .error .malformed
  | .object level ((key, value) :: rest) ending => do
    checkLevel level
    let a ← meaning interpret (.text key)
    match value with
    | .null =>
      if rest.isEmpty then
        ending.check
        .ok a
      else .error .malformed
    | o => .error o.otherKind
  | .absent => .error .truncated
  | _ => .error .malformed

end Reader

/-! ### Records -/

/-- Which part of a record may be left out. -/
inductive Presence where
  /-- The part must be given. -/
  | required
  /-- An object may leave the part out, an array may not. -/
  | nullable
  /-- The part may be left out. -/
  | defaulted
deriving DecidableEq, Repr

/-- A named part of a record of type `σ`, and how it is read into the record. -/
structure Slot (σ : Type) where
  name : String
  presence : Presence
  read : Outline → σ → Except Fault σ

/-- The part that `reader` takes and `put` stores. -/
def Slot.of {σ α : Type} (name : String) (presence : Presence) (reader : Reader α)
    (put : α → σ → σ) : Slot σ where
  name := name
  presence := presence
  read := fun o r => do
    return put (← reader o) r

namespace Reader

/-- Reads the parts of a record from the elements of an array, in the order of the parts. -/
def recordElements {σ : Type} (r : σ) :
    List (Slot σ) → List Outline → Ending → Except Fault σ
  | [], [], ending => do
    ending.check
    return r
  | [], _ :: _, _ => .error .malformed
  | part :: parts, [], ending => do
    ending.check
    if part.presence = .defaulted then recordElements r parts [] ending else .error .mismatch
  | part :: parts, o :: rest, ending => do
    recordElements (← part.read o r) parts rest ending

/-- Reads the parts of a record from the members of an object, in the order of the text. A part may
not be repeated; a member that is no part is skipped. The names read so far are `seen`. -/
def recordMembers {σ : Type} (parts : List (Slot σ)) (seen : List String) (r : σ) :
    List (Except Flaw String × Outline) → Ending → Except Fault σ
  | [], ending => do
    ending.check
    if parts.all fun part => part.presence ≠ .required || seen.contains part.name then .ok r
    else .error .mismatch
  | (key, o) :: rest, ending => do
    let key ← readPart key
    match parts.find? (·.name == key) with
    | some part =>
      if seen.contains key then .error .mismatch
      else recordMembers parts (key :: seen) (← part.read o r) rest ending
    | none =>
      o.skip
      recordMembers parts seen r rest ending

/-- A record as an object, whose members may come in any order; parts that are left out are those of
`start`. -/
def recordObject {σ : Type} (start : σ) (parts : List (Slot σ)) : Reader σ
  | .object level entries ending => do
    checkLevel level
    recordMembers parts [] start entries ending
  | o => .error o.otherKind

/-- A record as an object, or as an array of its parts in order. -/
def record {σ : Type} (start : σ) (parts : List (Slot σ)) : Reader σ
  | .array level elements ending => do
    checkLevel level
    recordElements start parts elements ending
  | o => recordObject start parts o

end Reader

end PartQuery.Json
