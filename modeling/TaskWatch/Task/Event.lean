import TaskWatch.Task.Basic
import TaskWatch.Wire.Event

/-!
# Events of a task

A watch sees a task as events: a snapshot of the whole task, progress, and one of three *terminal*
events after which nothing follows. A kind that is not known is kept under its name and treated
like progress.
-/

namespace TaskWatch

/-- What an event reports. -/
inductive EventKind where
  | snapshot
  | progress
  | completed
  | failed
  | deleted
  /-- A kind that is not one of the above. -/
  | other (name : String)
  deriving DecidableEq, Repr

/-- An event of a task. -/
structure Event where
  kind : EventKind
  task : Option Task := none
  progress : Option Progress := none
  error : String := ""
  deriving DecidableEq, Repr

namespace EventKind

/-- The kind with a name, up to ASCII case and the blanks around it. An event without a name is a
snapshot. -/
def ofName (raw : String) : EventKind :=
  let name := Text.trim raw
  let folded := Text.asciiLower name
  if folded = "" ∨ folded = "snapshot" then .snapshot
  else if folded = "progress" then .progress
  else if folded = "completed" then .completed
  else if folded = "failed" then .failed
  else if folded = "deleted" then .deleted
  else .other name

/-- The name of a kind. -/
def name : EventKind → String
  | .snapshot => "snapshot"
  | .progress => "progress"
  | .completed => "completed"
  | .failed => "failed"
  | .deleted => "deleted"
  | .other name => name

/-- The kinds after which a watch ends. -/
def isTerminal : EventKind → Bool
  | .completed | .failed | .deleted => true
  | _ => false

/-- Whether the kind is not one of those that are known. -/
def isUnknown : EventKind → Bool
  | .other _ => true
  | _ => false

end EventKind

namespace Event

def isTerminal (e : Event) : Bool := e.kind.isTerminal

/-- An event as it came over the wire. -/
def ofWire (raw : Wire.Event) : Except ClientError Event := do
  let task ← match raw.task with
    | none => pure none
    | some t => some <$> Task.ofWire t
  return {
    kind := EventKind.ofName raw.kind
    task := task
    progress := raw.progress.map Progress.ofWire
    error := Text.trim raw.error }

/-- The event as it goes over the wire. -/
def toWire (e : Event) : Wire.Event where
  kind := e.kind.name
  task := e.task.map Task.toWire
  progress := e.progress.map Progress.toWire
  error := e.error

/-- The event of one line of a watch. -/
def ofLine (line : String) : Except ClientError Event :=
  match Wire.Event.ofText? line with
  | none => .error (.decode .taskEvent)
  | some raw => ofWire raw

/-- The JSON text of an event. -/
def text (e : Event) : String := e.toWire.text

end Event

end TaskWatch
