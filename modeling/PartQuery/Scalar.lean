import PartQuery.Calendar.Reading
import PartQuery.Part.Status
import PartQuery.Rule.Tree

/-!
# Values

The values that fields hold and operands are read as. Texts, dates and numbers have an order; values
of different kinds compare with nothing. Texts are ordered by code points.
-/

namespace PartQuery

/-- A value to be compared. -/
inductive Scalar where
  | text (s : String)
  | date (t : Instant)
  | number (x : Binary64)
  | boolean (b : Bool)
  /-- The index of an entry of a list of values. -/
  | lov (index : Nat)
  | status (s : Status)
deriving DecidableEq

namespace Scalar

/-- Whether two values are the same value; numbers are compared by value. -/
def same : Scalar → Scalar → Bool
  | number x, number y => x.same y
  | number _, _ => false
  | _, number _ => false
  | a, b => a == b

/-- How two values compare, if they do. -/
def compare? : Scalar → Scalar → Option Ordering
  | number x, number y => x.compare? y
  | date s, date t => some (s.compare t)
  | text s, text t => some (compare s t)
  | _, _ => none

/-- The text that a value is. -/
def text? : Scalar → Option String
  | text s => some s
  | _ => none

end Scalar

namespace OperandType

/-- Reads one operand; dates without an offset are local to `timezone`. -/
def read? (timezone : Offset) (operand : String) : OperandType → Option Scalar
  | string | other _ => some (.text operand)
  | date => (Calendar.readOperand? timezone operand).map .date
  | double => (Binary64.read? operand).map .number
  | status => (Status.ofName? operand).map .status

end OperandType

namespace Comparison

/-- Reads all operands of a comparison. One that cannot be read spoils them all. -/
def operands (timezone : Offset) (c : Comparison) : Except QueryError (List Scalar) :=
  match c.values.mapM fun v => c.type.read? timezone v with
  | some operands => .ok operands
  | none => .error c.malformed

end Comparison

end PartQuery
