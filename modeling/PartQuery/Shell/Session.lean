import PartQuery.Part.Reader
import PartQuery.Shell.Command
import PartQuery.Sql.Statement
import PartQuery.Text.Quoted

/-!
# Sessions of the shell

A session holds a configuration, a dataset and what is selected in it. Each command gives the lines
to be shown and the session that goes on; a command that fails leaves the session as it was, and a
query never changes it.
-/

namespace PartQuery.Shell

/-- What a session holds. -/
structure Session where
  config : Config := {}
  dataset : Dataset := {}
  workspace : String := ""
  /-- The serial number of the product instance whose path data is searched. -/
  serialNumber : Option String := none
  showSql : Bool := false
deriving Inhabited

/-- A line to be shown. -/
inductive Line where
  | output (text : String)
  | error (text : String)
deriving DecidableEq, Repr

namespace Line

/-- The text of a line, wherever it is shown. -/
def text : Line → String
  | output text => text
  | error text => text

end Line

/-- Why a command failed. -/
structure Failure where
  message : String
  /-- What lies behind it, when the message does not say. -/
  cause : Option String := none
deriving DecidableEq, Repr

namespace Failure

/-- The failure as one line. -/
def line (f : Failure) : Line :=
  match f.cause with
  | some cause => .error ("error: " ++ f.message ++ ": " ++ cause)
  | none => .error ("error: " ++ f.message)

/-- The failure that ends the program, the cause below the message. -/
def lastLines (f : Failure) : List Line :=
  .error ("Error: " ++ f.message) ::
    match f.cause with
    | some cause => [.error "", .error "Caused by:", .error ("    " ++ cause)]
    | none => []

end Failure

/-- Shows lines one after the other, until a failure ends it. The lines shown before stand. -/
abbrev Showing (α : Type) := ExceptT Failure (StateM (List String)) α

namespace Showing

/-- Shows a line. -/
def line (text : String) : Showing Unit :=
  modify fun lines => lines ++ [text]

/-- Shows lines. -/
def lines (texts : List String) : Showing Unit :=
  modify fun lines => lines ++ texts

/-- Goes on with a result, or fails with the message of its error. -/
def ofResult {α : Type} : Except QueryError α → Showing α
  | .ok a => pure a
  | .error e => throw { message := e.message }

end Showing

/-- What is shown of a document that cannot be read. -/
def faultText : Json.Fault → String
  | .truncated => "the text ends too early"
  | .malformed => "the text is no JSON"
  | .mismatch => "the JSON has another shape"

/-- The lines of the help. -/
def helpLines : List String :=
  ["Commands:",
    "  :load <file>        Load a dataset (revisions, pathData, productInstances)",
    "  :config <file>      Load an engine configuration",
    "  :workspace <id>     Select the workspace searched for revisions",
    "  :instance <serial>  Select the product instance searched for path data",
    "  :sql                Toggle printing the rendered SQL",
    "  :quit               Exit",
    "",
    "Any other input is a JSON query, for example:",
    "  \x7b\"queryRule\": \x7b\"field\": \"pm.number\", \"operator\": \"begins_with\", ",
    "                  \"values\": [\"P-\"], \"type\": \"string\"\x7d\x7d"]

/-- A number in decimal digits. -/
def decimalText (n : Nat) : String :=
  String.ofList (Nat.toDigits 10 n)

/-- The line that counts what was found, and the lines that name it. -/
def foundLines (title : String) (found : List String) : List String :=
  ("[" ++ title ++ "] " ++ decimalText found.length ++ " match") :: found.map ("  " ++ ·)

/-- The line about a list of values that replaced alternatives. -/
def listingLine (listing : Sql.Listing) : String :=
  "  • OrToIn \x7b field: " ++ Text.quote listing.column.qualified ++ ", value_count: " ++
    decimalText listing.count ++ " \x7d"

namespace Session

/-- Shows the path data of the selected product instance that a query finds. -/
def showPaths (s : Session) (q : Query) (serialNumber : String) : Showing Unit := do
  match s.dataset.instance? serialNumber with
  | none =>
    throw { message := "no product instance with serial number \x60" ++ serialNumber ++ "\x60" }
  | some found =>
    let search := searchPaths (.ofDataset s.dataset) s.config q found.pathDataIds
    Showing.lines (foundLines "path data" (← Showing.ofResult search.result))
    if s.showSql then
      match ← Showing.ofResult (q.pathStatement s.config found.pathDataIds) with
      | some statement => Showing.line statement.select.text
      | none => Showing.line "(no path data attached, nothing to query)"

/-- Shows what a query finds: revisions, then their statement, then path data. -/
def showQuery (s : Session) (text : String) : Showing Unit := do
  match Query.ofJson text with
  | .error fault => throw { message := "invalid query JSON", cause := some (faultText fault) }
  | .ok q =>
    let search := searchRevisions (.ofDataset s.dataset) s.config q s.workspace
    let keys ← Showing.ofResult search.result
    Showing.lines (foundLines "revisions" (keys.map RevisionKey.toText))
    if s.showSql then
      let statement ← Showing.ofResult (q.revisionStatement s.config s.workspace)
      Showing.line statement.select.text
      Showing.lines (statement.listings.map listingLine)
    match s.serialNumber with
    | none => return ()
    | some serialNumber => s.showPaths q serialNumber

/-- The dataset of a file. -/
def loadDataset (path : String) (file : StoredFile) : Except Failure Dataset :=
  let failure (cause : String) : Failure :=
    ⟨"cannot load dataset \x60" ++ path ++ "\x60", some cause⟩
  match file with
  | .missing => .error (failure "there is no such file")
  | .unreadable => .error (failure "the file is no text")
  | .text content =>
    match Dataset.ofJson content with
    | .ok dataset => .ok dataset
    | .error fault => .error (failure (faultText fault))

/-- What is said of a configuration that cannot be loaded. -/
def configFailure : ConfigError → Failure
  | .missing path => { message := "config file does not exist: " ++ path }
  | .unreadable path => ⟨"cannot read config file " ++ path, some "the file is no text"⟩
  | .unparsable path fault => ⟨"cannot parse config file " ++ path, some (faultText fault)⟩

/-- What comes of a command: the lines it shows, its failure, and what goes on; a session that has
ended does not. -/
structure Reply where
  shown : List String
  failure : Option Failure
  /-- The session that goes on, unless it has ended. -/
  next : Option Session

/-- Carries out a command; `file` is what is found under the path it names. -/
def reply (s : Session) (file : StoredFile) (command : Command) : Reply :=
  match command with
  | .blank => ⟨[], none, some s⟩
  | .quit => ⟨[], none, none⟩
  | .help => ⟨helpLines, none, some s⟩
  | .load path =>
    match loadDataset path file with
    | .error failure => ⟨[], some failure, some s⟩
    | .ok dataset =>
      ⟨[decimalText dataset.revisions.length ++ " revisions, " ++
          decimalText dataset.pathData.length ++ " path data, " ++
          decimalText dataset.instances.length ++ " product instances"],
        none, some { s with dataset := dataset }⟩
  | .config path =>
    match Config.ofFile path file with
    | .error e => ⟨[], some (configFailure e), some s⟩
    | .ok config => ⟨["configuration loaded from " ++ path], none, some { s with config := config }⟩
  | .workspace id => ⟨["workspace: " ++ id], none, some { s with workspace := id }⟩
  | .select serialNumber =>
    ⟨["instance: " ++ serialNumber.getD "<none>"], none,
      some { s with serialNumber := serialNumber }⟩
  | .toggleSql =>
    ⟨["sql output " ++ if s.showSql then "off" else "on"], none,
      some { s with showSql := !s.showSql }⟩
  | .unknown name =>
    ⟨[], some { message := "unknown command \x60:" ++ name ++ "\x60, try :help" }, some s⟩
  | .query text =>
    let (result, shown) := (s.showQuery text).run.run []
    match result with
    | .ok () => ⟨shown, none, some s⟩
    | .error failure => ⟨shown, some failure, some s⟩

end Session

/-- The name of the configuration that a session begins with, if it is there and can be read. -/
def configFile : String :=
  "engine_config.json"

/-- The lines that greet. -/
def greeting : List String :=
  ["rule_dispatcher v0.1.0", "Type :help for help, :quit to exit", ""]

/-- The session that begins; a configuration that cannot be had is the default one. -/
def Session.start (file : StoredFile) : Session where
  config :=
    match Config.ofFile configFile file with
    | .ok config => config
    | .error _ => {}

/-- What is found under each path. -/
abbrev Files := String → StoredFile

/-- What is found under the path that a command names. -/
def fileOf (files : Files) (command : Command) : StoredFile :=
  match command.path? with
  | some path => files path
  | none => .missing

/-- The lines that a command shows. -/
def replyLines (reply : Session.Reply) : List Line :=
  reply.shown.map .output ++
    match reply.failure with
    | some failure => [failure.line]
    | none => []

/-- Carries out lines until the session or the input ends. -/
def runLines (files : Files) (s : Session) : List String → List Line
  | [] => []
  | line :: rest =>
    let command := Command.ofTyped line
    let reply := s.reply (fileOf files command) command
    match reply.next with
    | some next => replyLines reply ++ runLines files next rest
    | none => replyLines reply

/-- The command that loads the dataset named by an argument of the program. -/
def argumentCommand (argument : String) : Command :=
  Command.ofLine (":load " ++ argument)

/-- Loads the datasets named by the arguments; a failure ends the program. -/
def runArguments (files : Files) (s : Session) : List String → List Line × Option Session
  | [] => ([], some s)
  | argument :: rest =>
    let command := argumentCommand argument
    let reply := s.reply (fileOf files command) command
    match reply.failure, reply.next with
    | none, some next =>
      let (lines, final) := runArguments files next rest
      (reply.shown.map .output ++ lines, final)
    | some failure, _ => (reply.shown.map .output ++ failure.lastLines, none)
    | none, none => (reply.shown.map .output, none)

/-- All lines that the program shows, and the status it ends with. -/
def run (files : Files) (arguments input : List String) : List Line × Nat :=
  let (loaded, session) := runArguments files (.start (files configFile)) arguments
  match session with
  | some s => (greeting.map .output ++ loaded ++ runLines files s input, 0)
  | none => (greeting.map .output ++ loaded, 1)

end PartQuery.Shell
