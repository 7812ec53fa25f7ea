import PartQuery.Json.Reader
import PartQuery.Json.Value
import PartQuery.Rule.Tree

/-!
# Queries

A query holds one rule for revisions and one for path data, and how the answer is to be presented.
This module reads rules and queries from JSON and writes them. When a rule is written, parts that
say nothing are left out; a query is written in full.
-/

namespace PartQuery

open Json (Reader Slot Value)

namespace RuleForm

/-- Replaces the parts of a form. -/
def setCondition (condition : Option String) : RuleForm → RuleForm
  | mk _ field operator values type rules => mk condition field operator values type rules

@[inherit_doc setCondition] def setField (field : Option String) : RuleForm → RuleForm
  | mk condition _ operator values type rules => mk condition field operator values type rules

@[inherit_doc setCondition] def setOperator (operator : Option String) : RuleForm → RuleForm
  | mk condition field _ values type rules => mk condition field operator values type rules

@[inherit_doc setCondition] def setValues (values : List String) : RuleForm → RuleForm
  | mk condition field operator _ type rules => mk condition field operator values type rules

@[inherit_doc setCondition] def setType (type : Option String) : RuleForm → RuleForm
  | mk condition field operator values _ rules => mk condition field operator values type rules

@[inherit_doc setCondition] def setRules (rules : Option (List RuleForm)) : RuleForm → RuleForm
  | mk condition field operator values type _ => mk condition field operator values type rules

/-- Reads a form with at most `nesting` forms inside each other. -/
def reader : Nat → Reader RuleForm
  | 0 => fun _ => .error .malformed
  | nesting + 1 =>
    .record blank [
      .of "condition" .defaulted (.optional .text) setCondition,
      .of "field" .defaulted (.optional .text) setField,
      .of "operator" .defaulted (.optional .text) setOperator,
      .of "values" .defaulted (.list .text) setValues,
      .of "type" .defaulted (.optional .text) setType,
      .of "subQueryRules" .defaulted (.optional (.list (reader nesting))) setRules]

/-- Reads a form. Each form opens at least one bracket, so no more can be inside each other than
brackets may be open. -/
def read : Reader RuleForm :=
  reader Json.depthLimit

/-- Reads the JSON of a form. -/
def ofJson (text : String) : Except Json.Fault RuleForm :=
  Json.readDocument read text

/-- A member that is left out when there is nothing to say. -/
def writtenMember {α : Type} (name : String) (f : α → Value) : Option α → List (String × Value)
  | some a => [(name, f a)]
  | none => []

/-- Texts as an array. -/
def textArray (l : List String) : Value :=
  .array (l.map .text)

mutual

/-- The JSON of a form. -/
def toValue : RuleForm → Value
  | mk condition field operator values type rules =>
    .object (writtenMember "condition" .text condition ++ writtenMember "field" .text field ++
      writtenMember "operator" .text operator ++
      (if values.isEmpty then [] else [("values", textArray values)]) ++
      writtenMember "type" .text type ++
      match rules with
      | none => []
      | some rules => [("subQueryRules", .array (toValues rules))])

/-- The JSON of forms. -/
def toValues : List RuleForm → List Value
  | [] => []
  | form :: rest => form.toValue :: toValues rest

end

/-- The JSON text of a form. -/
def toJson (form : RuleForm) : String :=
  form.toValue.render

end RuleForm

/-- A product instance that a query was saved for. -/
structure QueryContext where
  serialNumber : String
  configurationItem : String
deriving DecidableEq, Repr, Inhabited

/-- A query as clients write it. -/
structure Query where
  name : String := ""
  /-- The rule for revisions. -/
  rule : Option RuleForm := none
  /-- The rule for path data. -/
  pathRule : Option RuleForm := none
  selects : List String := []
  orderBy : List String := []
  groupedBy : List String := []
  contexts : List QueryContext := []
deriving Inhabited

namespace QueryContext

/-- Reads a context. -/
def read : Reader QueryContext :=
  .record default [
    .of "serialNumber" .required .text fun s c => { c with serialNumber := s },
    .of "configurationItem" .required .text fun s c => { c with configurationItem := s }]

/-- The JSON of a context. -/
def toValue (c : QueryContext) : Value :=
  .object [("serialNumber", .text c.serialNumber), ("configurationItem", .text c.configurationItem)]

end QueryContext

namespace Query

/-- Reads a query. -/
def read : Reader Query :=
  .record {} [
    .of "name" .defaulted .text fun s q => { q with name := s },
    .of "queryRule" .defaulted (.optional RuleForm.read) fun r q => { q with rule := r },
    .of "pathDataQueryRule" .defaulted (.optional RuleForm.read) fun r q =>
      { q with pathRule := r },
    .of "selects" .defaulted (.list .text) fun l q => { q with selects := l },
    .of "orderByList" .defaulted (.list .text) fun l q => { q with orderBy := l },
    .of "groupedByList" .defaulted (.list .text) fun l q => { q with groupedBy := l },
    .of "contexts" .defaulted (.list QueryContext.read) fun l q => { q with contexts := l }]

/-- Reads the JSON of a query. -/
def ofJson (text : String) : Except Json.Fault Query :=
  Json.readDocument read text

/-- The JSON of a query. -/
def toValue (q : Query) : Value :=
  .object [
    ("name", .text q.name),
    ("queryRule", .nullable RuleForm.toValue q.rule),
    ("pathDataQueryRule", .nullable RuleForm.toValue q.pathRule),
    ("selects", RuleForm.textArray q.selects),
    ("orderByList", RuleForm.textArray q.orderBy),
    ("groupedByList", RuleForm.textArray q.groupedBy),
    ("contexts", .array (q.contexts.map QueryContext.toValue))]

/-- The JSON text of a query. -/
def toJson (q : Query) : String :=
  q.toValue.render

/-- Checks a rule that may be missing, which then asks for nothing. -/
def checkRule : Option RuleForm → Except QueryError Rule
  | some form => form.check
  | none => .ok .all

/-- The checked rule for revisions. -/
def revisionRule (q : Query) : Except QueryError Rule :=
  checkRule q.rule

/-- The checked rule for path data. -/
def pathDataRule (q : Query) : Except QueryError Rule :=
  checkRule q.pathRule

end Query

end PartQuery
