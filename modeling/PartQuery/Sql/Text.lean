import PartQuery.Calendar.Writing
import PartQuery.Number.Shortest
import PartQuery.Sql.Select

/-!
# The text of a statement

A statement is written on one line. Names stand in double quotes. A text that holds a character with
an escape is written as an escape string. Inside `AND` and `OR` a condition stands bare when it is a
single comparison; ranges, negated existence and nested connectives are put in parentheses, except
that a connective goes on with its own kind to the left.
-/

namespace PartQuery.Sql

/-- A name in double quotes. -/
def quoteName (s : String) : String :=
  String.ofList ('"' :: (s.toList.flatMap fun c => if c = '"' then [c, c] else [c]) ++ ['"'])

/-- The letter that escapes a character of a text, if it has one. -/
def escapeLetter? (c : Char) : Option Char :=
  if c = '\\' ∨ c = '"' ∨ c = '\'' then some c
  else if c = '\x00' then some '0'
  else if c = '\x08' then some 'b'
  else if c = '\t' then some 't'
  else if c = '\x1a' then some 'z'
  else if c = '\n' then some 'n'
  else if c = '\r' then some 'r'
  else none

/-- A text in single quotes, marked as an escape string when something in it is escaped. -/
def quoteText (s : String) : String :=
  let body := s.toList.flatMap fun c =>
    match escapeLetter? c with
    | some letter => ['\\', letter]
    | none => [c]
  let opening := if s.toList.any fun c => (escapeLetter? c).isSome then ['E', '\''] else ['\'']
  String.ofList (opening ++ body ++ ['\''])

namespace Alias

/-- The name as it stands in a statement. -/
def name : Alias → String
  | revision => "pr"
  | master => "pm"
  | author => "au"
  | iteration => "pi"
  | checkedIn => "ci"
  | pathData => "pd"
  | pathIteration => "pdi"
  | sub n => "s" ++ String.ofList (Nat.toDigits 10 n)

end Alias

namespace Column

/-- The column as it stands in a statement. -/
def text (c : Column) : String :=
  quoteName c.table.name ++ "." ++ quoteName c.name

/-- The column as reports name it. -/
def qualified (c : Column) : String :=
  c.table.name ++ "." ++ c.name

end Column

namespace Literal

/-- A whole number in decimal digits. -/
def integerText (n : Int) : String :=
  let digits := Nat.toDigits 10 n.natAbs
  String.ofList (if n < 0 then '-' :: digits else digits)

/-- The literal as it stands in a statement. -/
def toText : Literal → String
  | text s => quoteText s
  | integer n => integerText n
  | double x => x.toText
  | boolean b => if b then "TRUE" else "FALSE"
  | date t => quoteText t.toSqlText

end Literal

/-- The sign of a relation. -/
def Relation.sign : Relation → String
  | equal => "="
  | notEqual => "<>"
  | less => "<"
  | lessOrEqual => "<="
  | greater => ">"
  | greaterOrEqual => ">="

/-- A table with its name. -/
def TableRef.text (t : TableRef) : String :=
  quoteName t.table ++ " AS " ++ quoteName t.name.name

/-- A further table with the columns that agree. -/
def Join.text (j : Join) : String :=
  " INNER JOIN " ++ j.table.text ++ " ON " ++ j.left.text ++ " = " ++ j.right.text

/-- Columns separated by commas. -/
def columnList (columns : List Column) : String :=
  ", ".intercalate (columns.map Column.text)

/-- What is selected. -/
def Projection.text : Projection → String
  | distinct columns => "DISTINCT " ++ columnList columns
  | one => "1"
  | count => "COUNT(*)"

/-- The order of the rows, if one is asked for. -/
def orderText (columns : List Column) : String :=
  if columns.isEmpty then ""
  else " ORDER BY " ++ ", ".intercalate (columns.map fun c => c.text ++ " ASC")

/-- The two connectives of conditions. -/
inductive Junction where
  | and
  | or
deriving DecidableEq, Repr

/-- Whether a condition stands in parentheses beside a connective. -/
def Condition.isWrapped (beside : Junction) (isLeft : Bool) : Condition → Bool
  | between _ _ _ => true
  | exist _ negated => negated
  | and _ _ => !(isLeft && beside == .and)
  | or _ _ => !(isLeft && beside == .or)
  | _ => false

/-- Puts a text in parentheses, if asked to. -/
def wrap (wrapped : Bool) (s : String) : String :=
  if wrapped then "(" ++ s ++ ")" else s

mutual

/-- The text of a condition. -/
def Condition.text : Condition → String
  | .constant b => (Literal.boolean b).toText
  | .sameColumn left right => left.text ++ " = " ++ right.text
  | .compare column relation value => column.text ++ " " ++ relation.sign ++ " " ++ value.toText
  | .between column low high => column.text ++ " BETWEEN " ++ low.toText ++ " AND " ++ high.toText
  | .notNull column => column.text ++ " IS NOT NULL"
  | .oneOf column values =>
    if values.isEmpty then "1 = 2"
    else column.text ++ " IN (" ++ ", ".intercalate (values.map Literal.toText) ++ ")"
  | .like column pattern negated =>
    "LOWER(" ++ column.text ++ ")" ++ (if negated then " NOT LIKE " else " LIKE ") ++
      quoteText pattern ++ " ESCAPE " ++ quoteText "\\"
  | .counted column select => column.text ++ " IN (" ++ select.text ++ ")"
  | .exist select negated => (if negated then "NOT " else "") ++ "EXISTS(" ++ select.text ++ ")"
  | .and left right =>
    wrap (left.isWrapped .and true) left.text ++ " AND " ++
      wrap (right.isWrapped .and false) right.text
  | .or left right =>
    wrap (left.isWrapped .or true) left.text ++ " OR " ++
      wrap (right.isWrapped .or false) right.text

/-- The text of a selection. -/
def Select.text : Select → String
  | .mk projection table joins filter orderBy =>
    "SELECT " ++ projection.text ++ " FROM " ++ table.text ++ String.join (joins.map Join.text) ++
      " WHERE " ++ filter.text ++ orderText orderBy

end

end PartQuery.Sql
