import PartQuery.Json.Outline

/-!
# Texts of a document

What stands between the quotes of a document, once read and once skipped. Code points beyond the
first plane are escaped as two surrogates; only a reader minds when one of them stands alone.
-/

namespace PartQuery.Json

/-- The value of a hexadecimal digit. -/
def hexValue? (c : Char) : Option Nat :=
  if '0' ≤ c ∧ c ≤ '9' then some (c.toNat - '0'.toNat)
  else if 'a' ≤ c ∧ c ≤ 'f' then some (c.toNat - 'a'.toNat + 10)
  else if 'A' ≤ c ∧ c ≤ 'F' then some (c.toNat - 'A'.toNat + 10)
  else none

/-- The number that four hexadecimal digits write. -/
def hexUnit? (a b c d : Char) : Option Nat := do
  return ((16 * (← hexValue? a) + (← hexValue? b)) * 16 + (← hexValue? c)) * 16 + (← hexValue? d)

/-- The fault of four hexadecimal digits that cannot be read: the text is cut off when fewer than
four bytes are left of it, whatever they are. -/
def hexFault (s : List Char) : Fault :=
  if (s.take 4).foldl (fun bytes c => bytes + c.utf8Size) 0 < 4 then .truncated else .malformed

/-- The character of an escape other than a code point. -/
def shortEscape? (c : Char) : Option Char :=
  if c = '"' ∨ c = '\\' ∨ c = '/' then some c
  else if c = 'b' then some '\x08'
  else if c = 'f' then some '\x0c'
  else if c = 'n' then some '\n'
  else if c = 'r' then some '\r'
  else if c = 't' then some '\t'
  else none

/-- Whether a unit is the first half of a pair of surrogates. -/
def isLeadingUnit (n : Nat) : Bool :=
  0xD800 ≤ n && n ≤ 0xDBFF

/-- Whether a unit is the second half of a pair of surrogates. -/
def isTrailingUnit (n : Nat) : Bool :=
  0xDC00 ≤ n && n ≤ 0xDFFF

/-- Skips a text whose opening quote is gone; what follows its closing quote is left. -/
def skipText : List Char → Except Fault (List Char)
  | [] => .error .truncated
  | '"' :: rest => .ok rest
  | ['\\'] => .error .truncated
  | '\\' :: 'u' :: a :: b :: c :: d :: rest =>
    if (hexUnit? a b c d).isSome then skipText rest
    else .error (hexFault (a :: b :: c :: d :: rest))
  | '\\' :: 'u' :: rest => .error (hexFault rest)
  | '\\' :: e :: rest => if (shortEscape? e).isSome then skipText rest else .error .malformed
  | c :: rest => if c.toNat < 0x20 then .error .malformed else skipText rest

/-- Reads a text whose opening quote is gone. `lead` is the first half of a pair of surrogates that
has just been read and still wants its second half. -/
def readText (lead : Option Nat) : List Char → Except Fault (List Char)
  | [] => .error .truncated
  | '\\' :: 'u' :: a :: b :: c :: d :: rest =>
    match hexUnit? a b c d, lead with
    | none, _ => .error (hexFault (a :: b :: c :: d :: rest))
    | some n, some first =>
      if isTrailingUnit n then
        (readText none rest).map
          (Char.ofNat (0x10000 + 0x400 * (first - 0xD800) + (n - 0xDC00)) :: ·)
      else .error .malformed
    | some n, none =>
      if isTrailingUnit n then .error .malformed
      else if isLeadingUnit n then readText (some n) rest
      else (readText none rest).map (Char.ofNat n :: ·)
  | '\\' :: 'u' :: rest => .error (hexFault rest)
  | ['\\'] => .error .truncated
  | c :: rest =>
    if lead.isSome then .error .malformed
    else if c = '"' then .ok []
    else if c = '\\' then
      match rest with
      | [] => .error .truncated
      | e :: rest =>
        match shortEscape? e with
        | some x => (readText none rest).map (x :: ·)
        | none => .error .malformed
    else if c.toNat < 0x20 then .error .malformed
    else (readText none rest).map (c :: ·)

/-- The text at the front of a document whose opening quote is gone, and what follows it. -/
def scanText (s : List Char) : Except Flaw String × Option (List Char) :=
  match skipText s, readText none s with
  | .ok rest, .ok chars => (.ok (String.ofList chars), some rest)
  | .ok rest, .error fault => (.error ⟨fault, none⟩, some rest)
  | .error skipping, .ok _ => (.error ⟨skipping, some skipping⟩, none)
  | .error skipping, .error fault => (.error ⟨fault, some skipping⟩, none)

end PartQuery.Json
