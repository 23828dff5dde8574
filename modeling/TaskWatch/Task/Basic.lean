import TaskWatch.ClientError
import TaskWatch.Instant
import TaskWatch.Text.Case
import TaskWatch.Wire.Task

/-!
# Background tasks

A task that a daemon runs, with its times as instants and its short texts trimmed. The arguments,
the result, the metadata and the error of a task are kept as they were sent.

* `Task.ofWire` reads a task off the wire; the first time that cannot be read is the failure. The
  time of a progress entry is only for show, and becomes the zero instant when it cannot be read.
* `Task.toWire` is the way back; the zero instant is written as the empty text.
-/

namespace TaskWatch

/-- A progress entry of a task. -/
structure Progress where
  timestamp : Instant := .zero
  text : String := ""
  metadata : String := ""
  status : String := ""
  deriving DecidableEq, Repr

/-- A background task. -/
structure Task where
  id : String := ""
  toolName : String := ""
  args : String := ""
  workingDir : String := ""
  sessionId : String := ""
  callId : String := ""
  origin : String := ""
  clientId : String := ""
  mode : String := ""
  agentName : String := ""
  commandName : String := ""
  commandArgs : String := ""
  status : String := ""
  result : String := ""
  metadata : String := ""
  error : String := ""
  createdAt : Instant := .zero
  updatedAt : Instant := .zero
  completedAt : Option Instant := none
  progress : List Progress := []
  deriving DecidableEq, Repr

/-! ## Status -/

/-- The statuses after which a task no longer changes. -/
def terminalStatuses : List String := ["completed", "complete", "failed", "deleted"]

/-- Whether a status is one of those, up to ASCII case and the blanks around it. -/
def isTerminalStatus (status : String) : Bool :=
  terminalStatuses.any (Text.eqIgnoringAsciiCase (Text.trim status))

def Task.isTerminal (t : Task) : Bool := isTerminalStatus t.status

/-! ## Progress entries -/

/-- A status and a text as one line: with a dash between them, or the one that is there. -/
def statusLine : Option String → Option String → Option String
  | some status, some text => some (status ++ " — " ++ text)
  | none, some text => some text
  | some status, none => some status
  | none, none => none

namespace Progress

/-- The line that shows an entry: its status and text, or its time when both are blank. -/
def displayLine (p : Progress) : Option String :=
  (statusLine (Text.nonBlank? p.status) (Text.nonBlank? p.text)).orElse fun _ =>
    if p.timestamp.isZero then none else some p.timestamp.secondText

def ofWire (raw : Wire.Progress) : Progress where
  timestamp := (Instant.ofText? raw.timestamp).getD .zero
  text := Text.trim raw.text
  metadata := Text.trim raw.metadata
  status := Text.trim raw.status

def toWire (p : Progress) : Wire.Progress where
  timestamp := p.timestamp.text
  text := p.text
  metadata := p.metadata
  status := p.status

end Progress

namespace Task

/-- The instant of a time field. -/
def readTime (field : TimeField) (s : String) : Except ClientError Instant :=
  match Instant.ofText? s with
  | some t => .ok t
  | none => .error (.timestamp field)

/-- A task as it came over the wire. -/
def ofWire (raw : Wire.Task) : Except ClientError Task := do
  let createdAt ← readTime .createdAt raw.createdAt
  let updatedAt ← readTime .updatedAt raw.updatedAt
  let completedAt ←
    if Text.isBlank raw.completedAt then pure none
    else some <$> readTime .completedAt raw.completedAt
  return {
    id := Text.trim raw.id
    toolName := Text.trim raw.toolName
    args := raw.args
    workingDir := Text.trim raw.workingDir
    sessionId := Text.trim raw.sessionId
    callId := Text.trim raw.callId
    origin := Text.trim raw.origin
    clientId := Text.trim raw.clientId
    mode := Text.trim raw.mode
    agentName := Text.trim raw.agentName
    commandName := Text.trim raw.commandName
    commandArgs := Text.trim raw.commandArgs
    status := Text.trim raw.status
    result := raw.result
    metadata := raw.metadata
    error := raw.error
    createdAt := createdAt
    updatedAt := updatedAt
    completedAt := completedAt
    progress := raw.progress.map Progress.ofWire }

/-- The task as it goes over the wire. -/
def toWire (t : Task) : Wire.Task where
  id := t.id
  toolName := t.toolName
  args := t.args
  workingDir := t.workingDir
  sessionId := t.sessionId
  callId := t.callId
  mode := t.mode
  agentName := t.agentName
  commandName := t.commandName
  commandArgs := t.commandArgs
  origin := t.origin
  clientId := t.clientId
  status := t.status
  result := t.result
  metadata := t.metadata
  error := t.error
  createdAt := t.createdAt.text
  updatedAt := t.updatedAt.text
  completedAt := (t.completedAt.map Instant.text).getD ""
  progress := t.progress.map Progress.toWire

end Task

end TaskWatch
