import ApiDecl.Journal.Note
import ApiDecl.Journal.Template

/-!
# The console

The console shows notes in the context of a run: the run id, the phase and the file. A scope sets
the phase or the file, and leaving it, in whatever way, brings back the value from before. The run
id stays until it is set again. A handler shows bare messages until it is configured; from then on
it shows lines with all that is known about a note.
-/

namespace ApiDecl.Journal

/-- What is known about every note of a run. -/
structure Context where
  runId : String := unset
  phase : String := unset
  file : String := unset
deriving DecidableEq, Repr

/-- A note as a line: its level, its context, who wrote it, and the message. -/
def line (c : Context) (level : Level) (logger message : String) : String :=
  level.name ++ " | run_id=" ++ c.runId ++ " | phase=" ++ c.phase ++ " | file=" ++ c.file ++
    " | " ++ logger ++ " | " ++ message

/-- A note on its way to a handler. Its context is known once it has passed the filter. -/
structure Record where
  level : Level
  logger : String
  message : String
  context : Option Context := none
deriving DecidableEq, Repr

/-- The record as a line. -/
def Record.line (r : Record) : String :=
  Journal.line (r.context.getD {}) r.level r.logger r.message

/-- The line of a note of a run. -/
def Note.line (runId : String) (n : Note) : String :=
  Journal.line { runId, phase := n.phase.getD unset, file := n.file.getD unset } n.level n.logger
    n.message

/-- A scope that is entered, with the value from before. -/
inductive Scope
  | phase (before : String)
  | file (before : String)
deriving DecidableEq, Repr

/-- Something that shows notes. -/
structure Handler where
  /-- Does it show whole lines, or bare messages? -/
  isConfigured : Bool := false
deriving DecidableEq, Repr

/-- The number of filters that give a handler the context. -/
def Handler.filters (h : Handler) : Nat := if h.isConfigured then 1 else 0

/-- The state of a console. -/
structure Console where
  context : Context := {}
  /-- The scopes around, from the innermost. -/
  scopes : List Scope := []
  /-- Notes below this level are not shown. -/
  level : Level := .warning
  handlers : List Handler := []

namespace Console

/-- Enter a phase. -/
def enterPhase (phase : String) (c : Console) : Console :=
  { c with
    context := { c.context with phase }
    scopes := .phase c.context.phase :: c.scopes }

/-- Enter a file. -/
def enterFile (file : String) (c : Console) : Console :=
  { c with
    context := { c.context with file }
    scopes := .file c.context.file :: c.scopes }

/-- Leave the innermost scope. -/
def leave (c : Console) : Console :=
  match c.scopes with
  | [] => c
  | .phase phase :: scopes => { c with context := { c.context with phase }, scopes }
  | .file file :: scopes => { c with context := { c.context with file }, scopes }

/-- Set the run id. -/
def setRunId (runId : String) (c : Console) : Console :=
  { c with context := { c.context with runId } }

/-- The run id to set: the given one, or a generated one when none or an empty one is given. -/
def chooseRunId (given : Option String) (generated : String) : String :=
  match given with
  | none => generated
  | some runId => if runId.isEmpty then generated else runId

/-- The filter: the record with the context of this moment, and whether it is kept. -/
def filter (c : Console) (r : Record) : Record × Bool :=
  ({ r with context := some c.context }, true)

/-- Show whole lines from a level on. Without a handler there is one afterwards. -/
def configure (level : Level) (c : Console) : Console :=
  let handlers := if c.handlers.isEmpty then [{}] else c.handlers
  { c with level, handlers := handlers.map fun _ => { isConfigured := true } }

/-- Is a note of this level shown? -/
def shows (c : Console) (level : Level) : Bool := c.level.rank ≤ level.rank && 0 ≤ level.rank

/-- What a logger is called; the root has no name of its own. -/
def loggerName (logger : String) : String := if logger.isEmpty then "root" else logger

/-- What each handler shows for a note. A template that cannot be filled in shows nothing. -/
def emit (c : Console) (logger : String) (level : Level) (template : String)
    (arguments : List Json) : List (List String) :=
  c.handlers.map fun h =>
    if !c.shows level then []
    else match fill template arguments with
      | none => []
      | some message =>
        let r : Record := { level, logger := loggerName logger, message }
        if h.isConfigured then
          let (r, isKept) := c.filter r
          if isKept then [r.line] else []
        else [r.message]

@[simp] theorem leave_enterPhase (phase : String) (c : Console) :
    (c.enterPhase phase).leave = c := rfl

@[simp] theorem leave_enterFile (file : String) (c : Console) :
    (c.enterFile file).leave = c := rfl

end Console

end ApiDecl.Journal
