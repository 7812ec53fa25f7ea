import Mathlib.Tactic.Lemma
import PartQuery.Shell.Session

/-!
# What lines do to a session

A line changes at most one part of a session, and only if it succeeds: a line that fails, and a line
that holds a query, leave the session exactly as it was (`Session.answers_reply`). Such lines are
idle.

What comes of a list of lines is told line by line, as turns. A turn is what the session replied to
a line, or nothing if the session had ended before. Because idle lines leave the session as it was,
any of them can be left out of the input: the turns of the other lines are the same as before, and
the session ends as before. The main statement, `idle_lines_can_be_left_out`, says this of all
sessions and all files.
-/

namespace PartQuery.Shell

/-! ## One command -/

namespace Command

/-- Whether a command is a query. -/
def isQuery : Command → Bool
  | query _ => true
  | _ => false

/-- Whether a command can fail: it reads something, or it is not known. -/
def canFail : Command → Bool
  | load _ | config _ | query _ | unknown _ => true
  | _ => false

/-- A command that is a query is one with some text. -/
lemma isQuery_iff {command : Command} :
    command.isQuery = true ↔ ∃ text, command = .query text := by
  cases command <;> simp [isQuery]

end Command

namespace Session

/-- What can come of a command. If it fails, the session goes on as it was. If it succeeds, the
session goes on with a change in the part that the command is about, and in no other; only one
command ends it. -/
inductive Answers (file : StoredFile) (s : Session) : Command → Reply → Prop
  | failed {command : Command} (hfail : command.canFail = true) (shown : List String)
      (failure : Failure) : Answers file s command ⟨shown, some failure, some s⟩
  | quit : Answers file s .quit ⟨[], none, none⟩
  | blank : Answers file s .blank ⟨[], none, some s⟩
  | help : Answers file s .help ⟨helpLines, none, some s⟩
  | query (text : String) (shown : List String) :
      Answers file s (.query text) ⟨shown, none, some s⟩
  | load {path : String} {dataset : Dataset} (hload : loadDataset path file = .ok dataset)
      (shown : List String) :
      Answers file s (.load path) ⟨shown, none, some { s with dataset := dataset }⟩
  | config {path : String} {config : Config} (hload : Config.ofFile path file = .ok config)
      (shown : List String) :
      Answers file s (.config path) ⟨shown, none, some { s with config := config }⟩
  | workspace (id : String) (shown : List String) :
      Answers file s (.workspace id) ⟨shown, none, some { s with workspace := id }⟩
  | select (serialNumber : Option String) (shown : List String) :
      Answers file s (.select serialNumber)
        ⟨shown, none, some { s with serialNumber := serialNumber }⟩
  | toggleSql (shown : List String) :
      Answers file s .toggleSql ⟨shown, none, some { s with showSql := !s.showSql }⟩

/-- Nothing else comes of a command. -/
lemma answers_reply (file : StoredFile) (s : Session) (command : Command) :
    s.Answers file command (s.reply file command) := by
  cases command with
  | blank => exact .blank
  | quit => exact .quit
  | help => exact .help
  | load path =>
    simp only [reply]
    cases hload : loadDataset path file with
    | error failure => exact .failed rfl _ failure
    | ok dataset => exact .load hload _
  | config path =>
    simp only [reply]
    cases hload : Config.ofFile path file with
    | error e => exact .failed rfl _ (configFailure e)
    | ok config => exact .config hload _
  | workspace id => exact .workspace id _
  | select serialNumber => exact .select serialNumber _
  | toggleSql => exact .toggleSql _
  | unknown name => exact .failed rfl _ _
  | query text =>
    simp only [reply]
    -- The lines shown before a failure stand, and nothing else is left of the query.
    cases (s.showQuery text).run.run [] with
    | mk result shown =>
      cases result with
      | error failure => exact .failed rfl shown failure
      | ok _ => exact .query text shown

namespace Answers

variable {file : StoredFile} {s : Session} {command : Command} {reply : Reply}

/-- A command that fails leaves the session as it was. -/
lemma next_of_failure (h : s.Answers file command reply) {failure : Failure}
    (hfailure : reply.failure = some failure) : reply.next = some s := by
  cases h with
  | failed => rfl
  | _ => cases hfailure

/-- A query leaves the session as it was, however far it gets. -/
lemma next_of_query {text : String} (h : s.Answers file (.query text) reply) :
    reply.next = some s := by
  cases h <;> rfl

/-- The command to quit shows nothing and ends the session. -/
lemma eq_of_quit (h : s.Answers file .quit reply) : reply = ⟨[], none, none⟩ := by
  cases h with
  | failed hfail => cases hfail
  | quit => rfl

end Answers

end Session

/-! ## Leaving out -/

/-- Some elements of a list, each of which has a property, are left out. -/
inductive Thinned {α : Type} (P : α → Prop) : List α → List α → Prop
  | nil : Thinned P [] []
  | keep (a : α) {l kept : List α} (h : Thinned P l kept) : Thinned P (a :: l) (a :: kept)
  | drop {a : α} {l kept : List α} (ha : P a) (h : Thinned P l kept) : Thinned P (a :: l) kept

/-- What is kept was there before. -/
lemma Thinned.subset {α : Type} {P : α → Prop} {l kept : List α} (h : Thinned P l kept) :
    kept ⊆ l := by
  induction h with
  | nil => exact List.Subset.refl []
  | keep a _ ih => exact List.cons_subset_cons a ih
  | drop _ _ ih => exact List.subset_cons_of_subset _ ih

/-- All elements with a property can be left out. -/
lemma thinned_filter {α : Type} (p : α → Bool) (l : List α) :
    Thinned (fun a => p a = true) l (l.filter (!p ·)) := by
  induction l with
  | nil => exact .nil
  | cons a rest ih =>
    cases ha : p a with
    | true =>
      rw [List.filter_cons_of_neg (by simp [ha])]
      exact .drop ha ih
    | false =>
      rw [List.filter_cons_of_pos (by simp [ha])]
      exact .keep a ih

/-! ## Turns -/

/-- A line of the input and what the session replies to it; nothing if it has ended before. -/
structure Turn where
  line : String
  reply : Option Session.Reply

namespace Turn

/-- The turn of a line that comes too late. -/
def unheard (line : String) : Turn :=
  ⟨line, none⟩

/-- The lines that are shown in a turn. -/
def output (t : Turn) : List Line :=
  match t.reply with
  | some reply => replyLines reply
  | none => []

/-- Whether the line of a turn failed or is a query. -/
def isIdle (t : Turn) : Bool :=
  t.reply.any (·.failure.isSome) || (Command.ofTyped t.line).isQuery

/-- A line that was replied to is idle exactly when it failed or is a query. -/
lemma isIdle_mk_some_iff {line : String} {reply : Session.Reply} :
    isIdle ⟨line, some reply⟩ = true ↔ (∃ failure, reply.failure = some failure) ∨
      ∃ text, Command.ofTyped line = .query text := by
  rw [isIdle, Bool.or_eq_true, Command.isQuery_iff, Option.any_some, Option.isSome_iff_exists]

end Turn

variable (files : Files)

/-- The reply to a line that was typed. -/
def Session.hear (s : Session) (line : String) : Session.Reply :=
  s.reply (fileOf files (Command.ofTyped line)) (Command.ofTyped line)

/-- What comes of a line is what can come of its command. -/
lemma Session.answers_hear (s : Session) (line : String) :
    s.Answers (fileOf files (Command.ofTyped line)) (Command.ofTyped line) (s.hear files line) :=
  s.answers_reply _ _

/-- A line to quit shows nothing and ends the session. -/
lemma Session.hear_of_quit (s : Session) {line : String} (hquit : Command.ofTyped line = .quit) :
    s.hear files line = ⟨[], none, none⟩ := by
  have hanswers := s.answers_hear files line
  rw [hquit] at hanswers
  exact hanswers.eq_of_quit

/-- The turns of some lines, one for each. -/
def turns (s : Session) : List String → List Turn
  | [] => []
  | line :: rest =>
    let reply := s.hear files line
    ⟨line, some reply⟩ ::
      match reply.next with
      | some next => turns next rest
      | none => rest.map Turn.unheard

/-- The session as it is after the last line that it replied to. -/
def finalSession (s : Session) : List String → Session
  | [] => s
  | line :: rest =>
    match (s.hear files line).next with
    | some next => finalSession next rest
    | none => s

variable {files}

/-- What is shown of a line stands before what is shown of those after it. -/
lemma runLines_cons (s : Session) (line : String) (rest : List String) :
    runLines files s (line :: rest) =
      match (s.hear files line).next with
      | some next => replyLines (s.hear files line) ++ runLines files next rest
      | none => replyLines (s.hear files line) := by
  cases hnext : (s.hear files line).next with
  | some next =>
    rw [Session.hear] at hnext
    simp only [runLines, Session.hear, hnext]
  | none =>
    rw [Session.hear] at hnext
    simp only [runLines, Session.hear, hnext]

/-- Lines that come too late show nothing. -/
lemma flatMap_output_unheard (lines : List String) :
    (lines.map Turn.unheard).flatMap Turn.output = [] := by
  simp [List.flatMap_eq_nil_iff, Turn.unheard, Turn.output]

/-- What is shown of some lines is what is shown in their turns. -/
lemma runLines_eq_flatMap_output (s : Session) (lines : List String) :
    runLines files s lines = (turns files s lines).flatMap Turn.output := by
  induction lines generalizing s with
  | nil => rfl
  | cons line rest ih =>
    rw [runLines_cons, turns, List.flatMap_cons, Turn.output]
    cases (s.hear files line).next with
    | some next => simp only [ih]
    | none => simp only [flatMap_output_unheard, List.append_nil]

/-- There is one turn for each line. -/
lemma map_line_turns (s : Session) (lines : List String) :
    (turns files s lines).map Turn.line = lines := by
  induction lines generalizing s with
  | nil => rfl
  | cons line rest ih =>
    rw [turns, List.map_cons]
    cases (s.hear files line).next with
    | some next => simp only [ih]
    | none => simp [Turn.unheard, Function.comp_def]

/-- An idle line leaves the session as it was. -/
lemma next_hear_of_isIdle {s : Session} {line : String}
    (h : Turn.isIdle ⟨line, some (s.hear files line)⟩ = true) :
    (s.hear files line).next = some s := by
  have hanswers := s.answers_hear files line
  rcases Turn.isIdle_mk_some_iff.1 h with ⟨failure, hfailure⟩ | ⟨text, htext⟩
  · exact hanswers.next_of_failure hfailure
  · rw [htext] at hanswers
    exact hanswers.next_of_query

/-- Of the turns of lines that come too late any can be left out. -/
lemma map_unheard_of_subset {lines : List String} {kept : List Turn}
    (h : kept ⊆ lines.map Turn.unheard) : (kept.map Turn.line).map Turn.unheard = kept := by
  have hsame : ∀ t ∈ kept, Turn.unheard t.line = t := by
    intro t ht
    obtain ⟨line, -, rfl⟩ := List.mem_map.1 (h ht)
    rfl
  rw [List.map_map]
  exact (List.map_congr_left hsame).trans (List.map_id kept)

/-- Leaving out idle lines keeps the other turns and the session in the end. -/
lemma turns_of_thinned {s : Session} {lines : List String} {kept : List Turn}
    (h : Thinned (fun t => t.isIdle = true) (turns files s lines) kept) :
    turns files s (kept.map Turn.line) = kept ∧
      finalSession files s (kept.map Turn.line) = finalSession files s lines := by
  induction lines generalizing s kept with
  | nil =>
    cases h
    exact ⟨rfl, rfl⟩
  | cons line rest ih =>
    rw [turns] at h
    cases h with
    | drop hidle h =>
      have hnext := next_hear_of_isIdle hidle
      rw [hnext] at h
      rw [finalSession, hnext]
      exact ih h
    | @keep _ _ kept h =>
      rw [List.map_cons, turns, finalSession, finalSession]
      cases hnext : (s.hear files line).next with
      | some next =>
        rw [hnext] at h
        obtain ⟨hturns, hfinal⟩ := ih h
        refine ⟨?_, hfinal⟩
        simp only [hturns]
      | none =>
        rw [hnext] at h
        have hlate := map_unheard_of_subset h.subset
        simp only [hlate, and_self]

/-- The turn of a line to quit shows nothing, and the turns after it are those of lines that come
too late. -/
lemma turns_append_of_quit {s : Session} {line : String} (hquit : Command.ofTyped line = .quit)
    (before after : List String) : ∃ t : Turn, t.line = line ∧ t.output = [] ∧
      turns files s (before ++ line :: after) =
        turns files s before ++ t :: after.map Turn.unheard := by
  induction before generalizing s with
  | nil =>
    refine ⟨⟨line, some ⟨[], none, none⟩⟩, rfl, rfl, ?_⟩
    simp only [List.nil_append, turns, s.hear_of_quit files hquit]
  | cons first before ih =>
    rw [List.cons_append, turns, turns]
    cases (s.hear files first).next with
    | some next =>
      obtain ⟨t, hline, houtput, hturns⟩ := ih (s := next)
      exact ⟨t, hline, houtput, by simp only [hturns, List.cons_append]⟩
    | none =>
      -- The session has ended before, so that the line to quit comes too late itself.
      refine ⟨Turn.unheard line, rfl, rfl, ?_⟩
      simp

/-- The command to quit has a short name. -/
example : Command.ofTyped ":quit" = .quit ∧ Command.ofTyped " :q " = .quit := by
  decide +kernel

/-- What comes after a line to quit makes no difference to the session in the end. -/
lemma finalSession_append_of_quit {s : Session} {line : String}
    (hquit : Command.ofTyped line = .quit) (before after : List String) :
    finalSession files s (before ++ line :: after) = finalSession files s before := by
  induction before generalizing s with
  | nil =>
    simp only [List.nil_append, finalSession, s.hear_of_quit files hquit]
  | cons first before ih =>
    rw [List.cons_append, finalSession, finalSession]
    cases (s.hear files first).next with
    | some next => exact ih
    | none => rfl

/-- A command that fails, a blank line, the help and a query leave the session exactly as it was,
and any other command changes the one part of it that it is about. So, whatever the files, lines
that failed and queries can be left out of the input, any of them: every other line is replied to as
it was before, and the session is the same in the end. What is shown of some lines is what is shown
in their turns, and nothing is shown of a line to quit and of those after it. -/
theorem idle_lines_can_be_left_out (files : Files) (s : Session) :
    (∀ command, s.Answers (fileOf files command) command
      (s.reply (fileOf files command) command)) ∧
    (∀ lines, (turns files s lines).map Turn.line = lines ∧
      runLines files s lines = (turns files s lines).flatMap Turn.output) ∧
    (∀ lines kept, Thinned (fun t => t.isIdle = true) (turns files s lines) kept →
      turns files s (kept.map Turn.line) = kept ∧
      runLines files s (kept.map Turn.line) = kept.flatMap Turn.output ∧
      finalSession files s (kept.map Turn.line) = finalSession files s lines) ∧
    ∀ before line after, Command.ofTyped line = .quit →
      (∃ t : Turn, t.line = line ∧ t.output = [] ∧ turns files s (before ++ line :: after) =
        turns files s before ++ t :: after.map Turn.unheard) ∧
      runLines files s (before ++ line :: after) = runLines files s before ∧
      finalSession files s (before ++ line :: after) = finalSession files s before := by
  refine ⟨fun command => s.answers_reply _ command, ?_, ?_, ?_⟩
  · intro lines
    exact ⟨map_line_turns s lines, runLines_eq_flatMap_output s lines⟩
  · intro lines kept hthinned
    obtain ⟨hturns, hfinal⟩ := turns_of_thinned hthinned
    refine ⟨hturns, ?_, hfinal⟩
    rw [runLines_eq_flatMap_output, hturns]
  · intro before line after hquit
    obtain ⟨t, hline, houtput, hturns⟩ := turns_append_of_quit hquit before after
    refine ⟨⟨t, hline, houtput, hturns⟩, ?_, finalSession_append_of_quit hquit before after⟩
    rw [runLines_eq_flatMap_output, runLines_eq_flatMap_output, hturns, List.flatMap_append,
      List.flatMap_cons, houtput, flatMap_output_unheard, List.append_nil, List.append_nil]

/-- Lines of which some fail and two are queries, one of them too late. -/
def hastyLines : List String :=
  [":workspace home", "\x7b", ":load nowhere", ":sql", "\x7b\x7d", ":nope", ":quit", "\x7b\x7d"]

/-- The turns of these lines that are not idle. -/
def hastyTurns : List Turn :=
  (turns (fun _ => .missing) {} hastyLines).filter (!·.isIdle)

/-- Without the idle lines the same three lines are replied to in the same way. -/
theorem hastyLines_left_out :
    hastyTurns.map Turn.line = [":workspace home", ":sql", ":quit"] ∧
    turns (fun _ => .missing) {} [":workspace home", ":sql", ":quit"] = hastyTurns ∧
    finalSession (fun _ => .missing) {} hastyLines =
      { workspace := "home", showSql := true } := by
  have hlines : hastyTurns.map Turn.line = [":workspace home", ":sql", ":quit"] := by
    decide +kernel
  have hthinned : Thinned (fun t => t.isIdle = true)
      (turns (fun _ => .missing) {} hastyLines) hastyTurns :=
    thinned_filter Turn.isIdle _
  obtain ⟨-, -, hleft, -⟩ := idle_lines_can_be_left_out (fun _ => .missing) {}
  obtain ⟨hturns, -, hfinal⟩ := hleft hastyLines hastyTurns hthinned
  rw [hlines] at hturns hfinal
  refine ⟨hlines, hturns, ?_⟩
  rw [← hfinal]
  rfl

end PartQuery.Shell
