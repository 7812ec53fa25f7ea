import PartQuery.Calendar.Instant
import PartQuery.Number.Binary64

/-!
# Select statements

The part of SQL that queries are stated in: selections from joined tables, whose conditions compare
columns with literals and ask for the existence of rows in sub-selections.
-/

namespace PartQuery.Sql

/-- The names that tables have inside a statement. -/
inductive Alias where
  | revision
  | master
  | author
  | iteration
  /-- The iterations searched for a check-in. -/
  | checkedIn
  | pathData
  | pathIteration
  /-- The tables of sub-selections, numbered through the statement. -/
  | sub (n : Nat)
deriving DecidableEq, Repr

/-- A column of a table of the statement. -/
structure Column where
  table : Alias
  name : String
deriving DecidableEq, Repr

/-- A constant value. -/
inductive Literal where
  | text (s : String)
  | integer (n : Int)
  | double (x : Binary64)
  | boolean (b : Bool)
  | date (t : Instant)
deriving DecidableEq

/-- How a column is compared with a literal. -/
inductive Relation where
  | equal
  | notEqual
  | less
  | lessOrEqual
  | greater
  | greaterOrEqual
deriving DecidableEq, Repr

/-- A table and its name inside the statement. -/
structure TableRef where
  table : String
  name : Alias
deriving DecidableEq, Repr

/-- A further table, whose rows are those that agree in two columns. -/
structure Join where
  table : TableRef
  left : Column
  right : Column
deriving DecidableEq, Repr

/-- What a selection yields of each row. -/
inductive Projection where
  /-- Columns, each combination once. -/
  | distinct (columns : List Column)
  /-- The number one: only the existence of rows matters. -/
  | one
  /-- The number of rows. -/
  | count
deriving DecidableEq, Repr

mutual

/-- What rows are asked for. -/
inductive Condition where
  | constant (b : Bool)
  | sameColumn (left right : Column)
  | compare (column : Column) (relation : Relation) (value : Literal)
  | between (column : Column) (low high : Literal)
  | notNull (column : Column)
  | oneOf (column : Column) (values : List Literal)
  /-- The column in lower case meets a pattern, or, if negated, does not. -/
  | like (column : Column) (pattern : String) (negated : Bool)
  /-- The column is the number that a selection yields. -/
  | counted (column : Column) (select : Select)
  /-- A selection has rows, or, if negated, has none. -/
  | exist (select : Select) (negated : Bool)
  | and (left right : Condition)
  | or (left right : Condition)

/-- A selection from joined tables. -/
inductive Select where
  | mk (projection : Projection) (table : TableRef) (joins : List Join) (filter : Condition)
    (orderBy : List Column)

end

instance : Inhabited Condition := ⟨.constant true⟩

namespace Condition

/-- All of these conditions, joined from left to right. -/
def conjunction : List Condition → Condition
  | [] => constant true
  | first :: rest => rest.foldl and first

/-- One of these conditions, joined from left to right. -/
def disjunction : List Condition → Condition
  | [] => constant false
  | first :: rest => rest.foldl or first

end Condition

namespace Select

/-- What a selection yields. -/
def projection : Select → Projection
  | mk projection _ _ _ _ => projection

/-- The condition of a selection. -/
def filter : Select → Condition
  | mk _ _ _ filter _ => filter

/-- The columns that order the rows. -/
def orderBy : Select → List Column
  | mk _ _ _ _ orderBy => orderBy

end Select

end PartQuery.Sql
