import PartQuery.Shell.Backspace
import PartQuery.Text.Blank

/-!
# Commands of the shell

A line of the shell is a query, or a command that begins with a colon. The first blank ends the name
of a command; what follows, without the blanks at its ends, is its argument.
-/

namespace PartQuery.Shell

/-- What a line asks for. -/
inductive Command where
  | blank
  | quit
  | help
  /-- To load the dataset of a file. -/
  | load (path : String)
  /-- To load the configuration of a file. -/
  | config (path : String)
  /-- To search the revisions of a workspace from now on. -/
  | workspace (id : String)
  /-- To search the path data of a product instance from now on, or of none. -/
  | select (serialNumber : Option String)
  /-- To show statements, or no longer. -/
  | toggleSql
  | unknown (name : String)
  /-- To answer the query of a JSON text. -/
  | query (text : String)
deriving DecidableEq, Repr

namespace Command

/-- The command with a name and an argument. -/
def ofName (name argument : String) : Command :=
  match name with
  | "quit" | "q" => quit
  | "help" | "h" => help
  | "load" => load argument
  | "config" => config argument
  | "workspace" => workspace argument
  | "instance" => select (if argument.isEmpty then none else some argument)
  | "sql" => toggleSql
  | name => unknown name

/-- The command of a line. -/
def ofLine (line : String) : Command :=
  match Text.trimChars line.toList with
  | [] => blank
  | ':' :: rest =>
    let name := rest.takeWhile fun c => !Text.isBlank c
    let argument := Text.trimChars (rest.dropWhile fun c => !Text.isBlank c)
    ofName (String.ofList name) (String.ofList argument)
  | s => query (String.ofList s)

/-- The command of a line that was typed: the one of what its backspaces leave. -/
def ofTyped (line : String) : Command :=
  ofLine (applyBackspaces line)

/-- The file that a command looks at. -/
def path? : Command → Option String
  | load path => some path
  | config path => some path
  | _ => none

end Command

end PartQuery.Shell
