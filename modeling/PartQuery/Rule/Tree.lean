import PartQuery.Error
import PartQuery.Rule.Vocabulary

/-!
# Rules

A client sends a rule as one kind of record for comparisons and for groups, a `RuleForm`. It is
checked once and becomes a `Rule`, in which comparisons and groups are told apart and operators and
connectives are no longer words. A form with rules inside is a group, whatever else it holds; a form
without a field asks for nothing.
-/

namespace PartQuery

/-- A rule as clients write it. -/
inductive RuleForm where
  | mk (condition field operator : Option String) (values : List String) (type : Option String)
    (rules : Option (List RuleForm))
deriving Inhabited

namespace RuleForm

/-- The word that joins the rules inside. -/
def condition : RuleForm → Option String
  | mk condition _ _ _ _ _ => condition

/-- The field to be compared. -/
def field : RuleForm → Option String
  | mk _ field _ _ _ _ => field

/-- The word for the comparison. -/
def operator : RuleForm → Option String
  | mk _ _ operator _ _ _ => operator

/-- The operands as written. -/
def values : RuleForm → List String
  | mk _ _ _ values _ _ => values

/-- The word for the type of the operands. -/
def type : RuleForm → Option String
  | mk _ _ _ _ type _ => type

/-- The rules inside. -/
def rules : RuleForm → Option (List RuleForm)
  | mk _ _ _ _ _ rules => rules

/-- The form in which nothing is given. -/
def blank : RuleForm :=
  mk none none none [] none none

/-- The form of a comparison. -/
def comparison (field operator : String) (values : List String) (type : String) : RuleForm :=
  mk none (some field) (some operator) values (some type) none

/-- The form of a group. -/
def group (condition : String) (rules : List RuleForm) : RuleForm :=
  mk (some condition) none none [] none (some rules)

end RuleForm

/-- The comparison of one field with operands. -/
structure Comparison where
  field : String
  operator : Operator
  values : List String
  type : OperandType
deriving DecidableEq, Repr

namespace Comparison

/-- The error of operands that cannot be read. -/
def malformed (c : Comparison) : QueryError :=
  .malformedOperand c.type.name c.operator.name c.values

/-- The error of a field that cannot be used. -/
def unresolved (c : Comparison) : QueryError :=
  .unresolvedField c.field c.operator.name c.values

/-- The error of an operator that is not defined here. -/
def unsupported (c : Comparison) : QueryError :=
  .unsupportedOperator c.type.name c.operator.name c.values

end Comparison

/-- A checked rule. -/
inductive Rule where
  /-- The rule that everything meets. -/
  | all
  | leaf (comparison : Comparison)
  | group (connective : Connective) (rules : List Rule)
deriving Inhabited

namespace RuleForm

/-- Checks a form without rules inside. -/
def checkLeaf (field operator : Option String) (values : List String) (type : Option String) :
    Except QueryError Rule :=
  match field with
  | none => .ok .all
  | some field =>
    let type := OperandType.ofName (type.getD "string")
    let word := operator.getD ""
    match Operator.ofName? word with
    | some operator => .ok (.leaf ⟨field, operator, values, type⟩)
    | none => .error (.unsupportedOperator type.name word values)

/-- The connective that joins the rules of a group. -/
def checkCondition (condition : Option String) : Except QueryError Connective :=
  let word := condition.getD ""
  match Connective.ofName? word with
  | some connective => .ok connective
  | none => .error (.unparsableCondition word)

mutual

/-- Checks a form: a group's own condition first, then the rules inside from left to right. -/
def check : RuleForm → Except QueryError Rule
  | mk condition field operator values type rules =>
    match rules with
    | some (first :: rest) => do
      let connective ← checkCondition condition
      let first ← first.check
      let rest ← checkAll rest
      return .group connective (first :: rest)
    | some [] => checkLeaf field operator values type
    | none => checkLeaf field operator values type

/-- Checks forms from left to right. -/
def checkAll : List RuleForm → Except QueryError (List Rule)
  | [] => .ok []
  | form :: rest => do
    let rule ← form.check
    let rules ← checkAll rest
    return rule :: rules

end

end RuleForm

namespace Rule

mutual

/-- The form of a rule. -/
def form : Rule → RuleForm
  | all => .blank
  | leaf c => .comparison c.field c.operator.name c.values c.type.name
  | group connective rules => .group connective.name (forms rules)

/-- The forms of rules. -/
def forms : List Rule → List RuleForm
  | [] => []
  | rule :: rest => rule.form :: forms rest

end

end Rule

end PartQuery
