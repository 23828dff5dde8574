import TaskWatch.Duration
import TaskWatch.Json.Record
import TaskWatch.Registry

/-!
# Tool calls and their views

A conversation makes tool calls; a call and its result as the conversation sees them are the input
of the tracker, and a `CallView` is what it shows for them.
-/

namespace TaskWatch

/-- A tool call. -/
structure ToolCall where
  id : String := ""
  name : String := ""
  input : String := ""
  reason : String := ""
  sessionId : String := ""
  finished : Bool := false
  deriving DecidableEq, Repr

/-- The result of a tool call. Its metadata tells which background task it stands for. -/
structure ToolResult where
  toolCallId : String := ""
  name : String := ""
  content : String := ""
  metadata : String := ""
  isError : Bool := false
  deriving DecidableEq, Repr

namespace ToolCall

/-- The fields in declaration order. -/
def fieldNames : List String := ["id", "name", "input", "reason", "session_id", "finished"]

def ofDocument? (d : Document) : Option ToolCall := do
  let fields ← Fields.ofDocument? fieldNames d
  return {
    id := ← fields.required "id" Document.text?
    name := ← fields.required "name" Document.text?
    input := ← fields.text "input"
    reason := ← fields.text "reason"
    sessionId := ← fields.text "session_id"
    finished := ← fields.flag "finished" }

def toJson (c : ToolCall) : Json :=
  Json.record [
    Json.member "id" (.string c.id),
    Json.member "name" (.string c.name),
    Json.member "input" (.string c.input),
    Json.member "reason" (.string c.reason),
    Json.member "session_id" (.string c.sessionId),
    Json.member "finished" (.bool c.finished)]

end ToolCall

namespace ToolResult

/-- The fields in declaration order. -/
def fieldNames : List String := ["tool_call_id", "name", "content", "metadata", "is_error"]

def ofDocument? (d : Document) : Option ToolResult := do
  let fields ← Fields.ofDocument? fieldNames d
  return {
    toolCallId := ← fields.text "tool_call_id"
    name := ← fields.text "name"
    content := ← fields.text "content"
    metadata := ← fields.text "metadata"
    isError := ← fields.flag "is_error" }

def toJson (r : ToolResult) : Json :=
  Json.record [
    Json.member "tool_call_id" (.string r.toolCallId),
    Json.member "name" (.string r.name),
    Json.member "content" (.string r.content),
    Json.member "metadata" (.string r.metadata),
    Json.member "is_error" (.bool r.isError)]

end ToolResult

/-- How far a call has come. -/
inductive CallStatus where
  | pending
  | running
  | completed
  | failed
  deriving DecidableEq, Repr

namespace CallStatus

/-- An error outweighs the end of the call. -/
def ofCall (call : ToolCall) (result : ToolResult) : CallStatus :=
  if result.isError then .failed else if call.finished then .completed else .running

/-- The word that is shown for a status. -/
def text : CallStatus → String
  | .pending => "Pending"
  | .running => "Running"
  | .completed => "Completed"
  | .failed => "Failed"

/-- The name of a status in JSON. -/
def name : CallStatus → String
  | .pending => "pending"
  | .running => "running"
  | .completed => "completed"
  | .failed => "failed"

end CallStatus

/-- The label of a call that has no other. -/
def defaultLabel : String := "Async"

/-- What is shown of a call. -/
structure CallView where
  label : String
  status : CallStatus
  lines : List String
  showSpinner : Bool
  deriving DecidableEq, Repr

namespace CallView

/-- The view of a call without an id. -/
def pending : CallView := ⟨defaultLabel, .pending, [], false⟩

/-- The view in one line. -/
def summary (v : CallView) : String := v.label ++ " - " ++ v.status.text

end CallView

/-- The settings of a tracker. -/
structure TrackerConfig where
  /-- How many progress lines a call keeps. -/
  progressCapacity : Nat := 10
  /-- How long a call that may be forgotten is kept. -/
  cleanupDelay : Duration := .minutes 2
  /-- How many events wait for a slow watcher. -/
  eventCapacity : Nat := 32
  /-- The daemon on which tasks are watched. -/
  daemon : String := localDaemon
  deriving DecidableEq, Repr

end TaskWatch
