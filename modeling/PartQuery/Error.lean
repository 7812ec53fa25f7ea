import PartQuery.Text.Quoted

/-!
# Errors of a query

What can be wrong with a query beyond its being no JSON. The words of the query that are at fault
are kept as the client wrote them.
-/

namespace PartQuery

/-- Why a query has no answer. -/
inductive QueryError where
  /-- Operands cannot be read as their declared type. -/
  | malformedOperand (type operator : String) (values : List String)
  /-- There is no such field, or the query is not about entities that have it. -/
  | unresolvedField (field operator : String) (values : List String)
  /-- The operator is not defined for the type, or not for so many operands. -/
  | unsupportedOperator (type operator : String) (values : List String)
  /-- A group is joined by a word that is no connective. -/
  | unparsableCondition (condition : String)
  /-- The source of the data failed, with this message. -/
  | source (message : String)
deriving DecidableEq, Repr

namespace QueryError

/-- The text shown to the client. -/
def message : QueryError → String
  | malformedOperand type operator values =>
    "malformed operand(s) " ++ Text.quoteList values ++ " for type \x60" ++ type ++
      "\x60 with operator \x60" ++ operator ++ "\x60"
  | unresolvedField field operator values =>
    "unresolved field \x60" ++ field ++ "\x60 (operator \x60" ++ operator ++ "\x60, values " ++
      Text.quoteList values ++ ")"
  | unsupportedOperator type operator values =>
    "unsupported operator \x60" ++ operator ++ "\x60 for type \x60" ++ type ++
      "\x60 with values " ++ Text.quoteList values
  | unparsableCondition condition => "unparsable condition \x60" ++ condition ++ "\x60"
  | source message => message

end QueryError

end PartQuery
