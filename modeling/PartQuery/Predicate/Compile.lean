import PartQuery.Predicate.Basic

/-!
# From rules to predicates

Compiling a rule finds its fields, reads its operands and decides whether each operator is defined
for the field, the declared type and the number of operands. The first comparison that fails, from
left to right, decides how a rule fails.
-/

namespace PartQuery

/-- What a rule is compiled for. -/
structure CompileContext where
  /-- The entities whose fields it may name. -/
  family : Family
  /-- The offset of dates that name none. -/
  timezone : Offset

namespace ValueTest

/-- The test of a field that can only be asked for equality. -/
def equality? (operator : Operator) (v : Scalar) : Option ValueTest :=
  match operator with
  | .equal => some (.equal v)
  | .notEqual => some (.notEqual v)
  | _ => none

/-- How a text operator looks for its operand, and whether it wants it absent. -/
def likeMode? : Operator → Option (LikeMode × Bool)
  | .contains => some (.contains, false)
  | .notContains => some (.contains, true)
  | .beginsWith => some (.beginsWith, false)
  | .notBeginsWith => some (.beginsWith, true)
  | .endsWith => some (.endsWith, false)
  | .notEndsWith => some (.endsWith, true)
  | _ => none

/-- The test of an ordering operator. -/
def ordering? (operator : Operator) (v : Scalar) : Option ValueTest :=
  match operator with
  | .less => some (.less v)
  | .lessOrEqual => some (.lessOrEqual v)
  | .greater => some (.greater v)
  | .greaterOrEqual => some (.greaterOrEqual v)
  | _ => none

/-- The test of a text operator, for an operand declared as text. -/
def like? (operator : Operator) (v : Scalar) : Option ValueTest := do
  let (mode, negated) ← likeMode? operator
  let s ← v.text?
  return .like mode (Text.lower s) negated

/-- The test of an operator on operands of a declared type. Dates and numbers are ordered, declared
texts can be searched, and everything can be asked for equality with the first operand. -/
def comparison? (operator : Operator) (type : OperandType) (operands : List Scalar) :
    Option ValueTest :=
  let ordered := type = .date ∨ type = .double
  match operator, operands with
  | .between, [low, high] => if ordered then some (.range low high) else none
  | .between, _ => none
  | _, [] => none
  | operator, first :: _ =>
    (equality? operator first).or
      ((if ordered then ordering? operator first else none).or
        (if type = .string then like? operator first else none))

end ValueTest

namespace Comparison

/-- The only operand of a comparison that asks for equality, if its type is accepted. -/
def equalityOperand? (c : Comparison) (accepted : Bool) : Option String :=
  match c.values with
  | [v] => if (c.operator = .equal ∨ c.operator = .notEqual) ∧ accepted then some v else none
  | _ => none

/-- The test of a field that holds one of a few values, which `read?` recognises. -/
def equalityTest (c : Comparison) (accepted : Bool) (read? : String → Option Scalar) :
    Except QueryError ValueTest :=
  match c.equalityOperand? accepted with
  | none => .error c.unsupported
  | some operand =>
    match read? operand with
    | none => .error c.malformed
    | some v =>
      match ValueTest.equality? c.operator v with
      | some test => .ok test
      | none => .error c.unsupported

/-- A truth value, in any case and with blanks around it. -/
def readBoolean? (operand : String) : Option Bool :=
  let word := (Text.trimChars operand.toList).map Char.toLower
  if word = "true".toList then some true
  else if word = "false".toList then some false
  else none

/-- A natural number below `2 ^ 32`, with an optional plus and blanks around it. -/
def readIndex? (operand : String) : Option Nat :=
  let s := Text.trimChars operand.toList
  let digits :=
    match s with
    | '+' :: rest => rest
    | s => s
  if digits.isEmpty || !digits.all Char.isDigit then none
  else
    let n := Decimal.ofDigits digits
    if n < twoPow 32 then some n else none

/-- The test of a field with labels. -/
def tagTest (c : Comparison) : Except QueryError ValueTest :=
  if c.values.isEmpty then .error c.unsupported
  else
    match c.operator with
    | .equal => .ok (.tagsAny c.values)
    | .notEqual => .ok (.tagsNone c.values)
    | _ => .error c.unsupported

/-- Whether operands of a declared type can be compared with what a field holds. -/
def accepts (kind : ValueKind) (type : OperandType) : Bool :=
  match kind with
  | .text => type.isPlain
  | .date => type == .date
  | .number => type == .double
  | _ => false

/-- The test of a field that holds a text, a date or a number. Operands are read before anything
else. Equality with a date means the day that begins there. -/
def orderedTest (c : Comparison) (kind : ValueKind) (timezone : Offset) :
    Except QueryError ValueTest := do
  let operands ← c.operands timezone
  if accepts kind c.type then
    match c.operator, operands with
    | .equal, .date start :: _ =>
      match start.nextDay? with
      | some stop => .ok (.dayWindow start stop)
      | none => .error c.malformed
    | operator, operands =>
      match ValueTest.comparison? operator c.type operands with
      | some test => .ok test
      | none => .error c.unsupported
  else .error c.unsupported

/-- The test that a comparison makes of a field. -/
def test (c : Comparison) (field : Field) (timezone : Offset) : Except QueryError ValueTest :=
  match field.valueKind with
  | .unchecked => .ok .always
  | .tags => c.tagTest
  | .status =>
    c.equalityTest (c.type.isPlain || c.type == .status) fun s => (Status.ofName? s).map .status
  | .boolean => c.equalityTest c.type.isPlain fun s => (readBoolean? s).map .boolean
  | .lov => c.equalityTest c.type.isPlain fun s => (readIndex? s).map .lov
  | kind => c.orderedTest kind timezone

/-- Compiles a comparison. -/
def compile (ctx : CompileContext) (c : Comparison) : Except QueryError Predicate := do
  let field ← c.resolveFor ctx.family
  let test ← c.test field ctx.timezone
  return .compare field test

end Comparison

namespace Predicate

/-- The predicate of a group; a group of no rules joined by `and` asks for nothing. -/
def ofGroup (connective : Connective) (children : List Predicate) : Predicate :=
  match connective with
  | .and => if children.isEmpty then .always else .all children
  | .or => .any children

end Predicate

namespace Rule

mutual

/-- Compiles a rule. -/
def compile (ctx : CompileContext) : Rule → Except QueryError Predicate
  | all => .ok .always
  | leaf c => c.compile ctx
  | group connective rules => do
    let children ← compileAll ctx rules
    return .ofGroup connective children

/-- Compiles rules from left to right. -/
def compileAll (ctx : CompileContext) : List Rule → Except QueryError (List Predicate)
  | [] => .ok []
  | rule :: rest => do
    let p ← rule.compile ctx
    let ps ← compileAll ctx rest
    return p :: ps

end

end Rule

end PartQuery
