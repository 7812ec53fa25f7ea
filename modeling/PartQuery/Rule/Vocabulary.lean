/-!
# The words of a rule

A rule compares fields by named operators, declares how its operands are to be read, and joins
comparisons by a connective. Each of these words belongs to a closed set except the operand type,
where any other word is kept and means plain text.
-/

namespace PartQuery

/-- How the rules of a group are joined. -/
inductive Connective where
  | and
  | or
deriving DecidableEq, Repr

namespace Connective

/-- The word for a connective. -/
def name : Connective → String
  | and => "AND"
  | or => "OR"

/-- All connectives. -/
def all : List Connective :=
  [and, or]

/-- The connective with this name. -/
def ofName? (s : String) : Option Connective :=
  all.find? (·.name == s)

@[simp] theorem ofName?_name (c : Connective) : ofName? c.name = some c := by
  cases c <;> rfl

end Connective

/-- How a comparison relates the value of a field to its operands. -/
inductive Operator where
  | equal
  | notEqual
  | between
  | contains
  | notContains
  | beginsWith
  | notBeginsWith
  | endsWith
  | notEndsWith
  | less
  | lessOrEqual
  | greater
  | greaterOrEqual
deriving DecidableEq, Repr

namespace Operator

/-- The word for an operator. -/
def name : Operator → String
  | equal => "equal"
  | notEqual => "not_equal"
  | between => "between"
  | contains => "contains"
  | notContains => "not_contains"
  | beginsWith => "begins_with"
  | notBeginsWith => "not_begins_with"
  | endsWith => "ends_with"
  | notEndsWith => "not_ends_with"
  | less => "less"
  | lessOrEqual => "less_or_equal"
  | greater => "greater"
  | greaterOrEqual => "greater_or_equal"

/-- All operators. -/
def all : List Operator :=
  [equal, notEqual, between, contains, notContains, beginsWith, notBeginsWith, endsWith,
    notEndsWith, less, lessOrEqual, greater, greaterOrEqual]

/-- The operator with this name. -/
def ofName? (s : String) : Option Operator :=
  all.find? (·.name == s)

@[simp] theorem ofName?_name (o : Operator) : ofName? o.name = some o := by
  cases o <;> rfl

end Operator

/-- How the operands of a comparison are read. -/
inductive OperandType where
  | string
  | date
  | double
  | status
  /-- Any other word: the operands stay as they are written. -/
  | other (name : String)
deriving DecidableEq, Repr

namespace OperandType

/-- The word for an operand type. -/
def name : OperandType → String
  | string => "string"
  | date => "date"
  | double => "double"
  | status => "status"
  | other name => name

/-- The operand types that are read in a way of their own. -/
def known : List OperandType :=
  [string, date, double, status]

/-- The operand type that a word declares. -/
def ofName (s : String) : OperandType :=
  (known.find? (·.name == s)).getD (other s)

/-- Whether operands of this type stay as they are written. -/
def isPlain : OperandType → Bool
  | string | other _ => true
  | _ => false

end OperandType

end PartQuery
