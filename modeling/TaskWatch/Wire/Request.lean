import TaskWatch.Json.Record

/-!
# Requests

A request is one line. It names its kind, and of its other fields only those that are not empty are
written. A lifecycle request may carry any JSON value.
-/

namespace TaskWatch.Wire

/-- What a request asks for. -/
inductive RequestKind where
  | list
  | toolSubmit
  | toolGet
  | toolList
  | toolDelete
  | toolWatch
  | toolMetrics
  | lifecycleEvent
  deriving DecidableEq, Repr

/-- A request. -/
structure Request where
  kind : RequestKind
  agentName : String := ""
  command : String := ""
  toolName : String := ""
  toolArgs : String := ""
  taskId : String := ""
  workingDir : String := ""
  sessionId : String := ""
  callId : String := ""
  mode : String := ""
  commandArgs : String := ""
  origin : String := ""
  clientId : String := ""
  lifecycleType : String := ""
  lifecycleData : Option Json := none

namespace RequestKind

def all : List RequestKind :=
  [.list, .toolSubmit, .toolGet, .toolList, .toolDelete, .toolWatch, .toolMetrics, .lifecycleEvent]

/-- The name of a kind on the wire. -/
def name : RequestKind → String
  | .list => "list"
  | .toolSubmit => "tool_submit"
  | .toolGet => "tool_get"
  | .toolList => "tool_list"
  | .toolDelete => "tool_delete"
  | .toolWatch => "tool_watch"
  | .toolMetrics => "tool_metrics"
  | .lifecycleEvent => "lifecycle_event"

/-- The kind with a name. -/
def ofName? (name : String) : Option RequestKind :=
  all.find? (·.name == name)

/-- A kind is written as its name, and is also read from an object whose one key is the name and
holds `null`. -/
def ofDocument? : Document → Option RequestKind
  | .string s => s.bind ofName?
  | .object [(some key, .null)] => ofName? key
  | _ => none

end RequestKind

namespace Request

/-- The fields in declaration order. -/
def fieldNames : List String :=
  ["type", "agent_name", "command", "tool_name", "tool_args", "task_id", "working_dir",
    "session_id", "call_id", "mode", "command_args", "origin", "client_id", "lifecycle_type",
    "lifecycle_data"]

/-- How deep a lifecycle value may be nested: the request around it is one level. -/
def payloadDepth : Nat := Document.greatestDepth - 1

def ofDocument? (d : Document) : Option Request := do
  let fields ← Fields.ofDocument? fieldNames d
  return {
    kind := ← fields.required "type" RequestKind.ofDocument?
    agentName := ← fields.text "agent_name"
    command := ← fields.text "command"
    toolName := ← fields.text "tool_name"
    toolArgs := ← fields.text "tool_args"
    taskId := ← fields.text "task_id"
    workingDir := ← fields.text "working_dir"
    sessionId := ← fields.text "session_id"
    callId := ← fields.text "call_id"
    mode := ← fields.text "mode"
    commandArgs := ← fields.text "command_args"
    origin := ← fields.text "origin"
    clientId := ← fields.text "client_id"
    lifecycleType := ← fields.text "lifecycle_type"
    lifecycleData := ← fields.optional "lifecycle_data" (·.keep? payloadDepth) }

def toJson (r : Request) : Json :=
  Json.record [
    Json.member "type" (.string r.kind.name),
    Json.textMember "agent_name" r.agentName,
    Json.textMember "command" r.command,
    Json.textMember "tool_name" r.toolName,
    Json.textMember "tool_args" r.toolArgs,
    Json.textMember "task_id" r.taskId,
    Json.textMember "working_dir" r.workingDir,
    Json.textMember "session_id" r.sessionId,
    Json.textMember "call_id" r.callId,
    Json.textMember "mode" r.mode,
    Json.textMember "command_args" r.commandArgs,
    Json.textMember "origin" r.origin,
    Json.textMember "client_id" r.clientId,
    Json.textMember "lifecycle_type" r.lifecycleType,
    Json.partMember "lifecycle_data" r.lifecycleData]

/-- The request of a JSON text. -/
def ofText? (s : String) : Option Request := do
  ofDocument? (← Document.ofText? s)

/-- The line that carries a request. -/
def line (r : Request) : String := r.toJson.text ++ "\n"

end Request

end TaskWatch.Wire
