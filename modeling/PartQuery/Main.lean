import PartQuery.Shell.Session

/-!
# The program

An interactive shell over standard input. The files it is asked for are looked up here; everything
else is decided by the session.
-/

namespace PartQuery.Shell

/-- Looks up a file. -/
def lookUp (path : String) : IO StoredFile := do
  try
    let content ← IO.FS.readBinFile path
    match String.fromUTF8? content with
    | some text => return .text text
    | none => return .unreadable
  catch
    | .noFileOrDirectory .. => return .missing
    | _ => return .unreadable

/-- Looks up the file that a command names. -/
def lookUpFor (command : Command) : IO StoredFile :=
  match command.path? with
  | some path => lookUp path
  | none => return .missing

/-- Shows a line where it belongs. -/
def putLine : Line → IO Unit
  | .output text => IO.println text
  | .error text => IO.eprintln text

/-- Carries out the lines of standard input. -/
partial def loop (input : IO.FS.Stream) (s : Session) : IO Unit := do
  let line ← input.getLine
  if line.isEmpty then return ()
  let command := Command.ofTyped line
  let reply := s.reply (← lookUpFor command) command
  (replyLines reply).forM putLine
  match reply.next with
  | some next => loop input next
  | none => return ()

/-- Loads the datasets named by the arguments; gives the session that goes on. -/
def load (s : Session) : List String → IO (Option Session)
  | [] => return some s
  | argument :: rest => do
    let command := argumentCommand argument
    let reply := s.reply (← lookUpFor command) command
    reply.shown.forM fun text => putLine (.output text)
    match reply.failure, reply.next with
    | none, some next => load next rest
    | some failure, _ => do
      failure.lastLines.forM putLine
      return none
    | none, none => return none

end PartQuery.Shell

open PartQuery.Shell in
/-- Greets, loads the datasets named by the arguments, and carries out the lines of standard input.
-/
def main (arguments : List String) : IO UInt32 := do
  greeting.forM fun text => putLine (.output text)
  match ← PartQuery.Shell.load (.start (← lookUp configFile)) arguments with
  | some s => do
    PartQuery.Shell.loop (← IO.getStdin) s
    return 0
  | none => return 1
