import TaskWatch.Json.Record

/-!
# Tasks on the wire

A task and its progress entries as a daemon sends them: every field is a text, times included. A
field that is missing on the wire is empty. When a task is written, the fields in which every task
differs are always there, and the others only when they are not empty.
-/

namespace TaskWatch.Wire

/-- A progress entry of a task. -/
structure Progress where
  timestamp : String := ""
  text : String := ""
  metadata : String := ""
  status : String := ""
  deriving DecidableEq, Repr

/-- A task. -/
structure Task where
  id : String := ""
  toolName : String := ""
  args : String := ""
  workingDir : String := ""
  sessionId : String := ""
  callId : String := ""
  mode : String := ""
  agentName : String := ""
  commandName : String := ""
  commandArgs : String := ""
  origin : String := ""
  clientId : String := ""
  status : String := ""
  result : String := ""
  metadata : String := ""
  error : String := ""
  createdAt : String := ""
  updatedAt : String := ""
  completedAt : String := ""
  progress : List Progress := []
  deriving DecidableEq, Repr

namespace Progress

/-- The fields in declaration order. -/
def fieldNames : List String := ["timestamp", "text", "metadata", "status"]

def ofDocument? (d : Document) : Option Progress := do
  let fields ← Fields.ofDocument? fieldNames d
  return {
    timestamp := ← fields.text "timestamp"
    text := ← fields.text "text"
    metadata := ← fields.text "metadata"
    status := ← fields.text "status" }

def toJson (p : Progress) : Json :=
  Json.record [
    Json.member "timestamp" (.string p.timestamp),
    Json.textMember "text" p.text,
    Json.textMember "metadata" p.metadata,
    Json.textMember "status" p.status]

end Progress

namespace Task

/-- The fields in declaration order. -/
def fieldNames : List String :=
  ["id", "tool_name", "args", "working_dir", "session_id", "call_id", "mode", "agent_name",
    "command_name", "command_args", "origin", "client_id", "status", "result", "metadata", "error",
    "created_at", "updated_at", "completed_at", "progress"]

def ofDocument? (d : Document) : Option Task := do
  let fields ← Fields.ofDocument? fieldNames d
  return {
    id := ← fields.text "id"
    toolName := ← fields.text "tool_name"
    args := ← fields.text "args"
    workingDir := ← fields.text "working_dir"
    sessionId := ← fields.text "session_id"
    callId := ← fields.text "call_id"
    mode := ← fields.text "mode"
    agentName := ← fields.text "agent_name"
    commandName := ← fields.text "command_name"
    commandArgs := ← fields.text "command_args"
    origin := ← fields.text "origin"
    clientId := ← fields.text "client_id"
    status := ← fields.text "status"
    result := ← fields.text "result"
    metadata := ← fields.text "metadata"
    error := ← fields.text "error"
    createdAt := ← fields.text "created_at"
    updatedAt := ← fields.text "updated_at"
    completedAt := ← fields.text "completed_at"
    progress := ← fields.list "progress" Progress.ofDocument? }

def toJson (t : Task) : Json :=
  Json.record [
    Json.member "id" (.string t.id),
    Json.member "tool_name" (.string t.toolName),
    Json.member "args" (.string t.args),
    Json.member "working_dir" (.string t.workingDir),
    Json.textMember "session_id" t.sessionId,
    Json.textMember "call_id" t.callId,
    Json.textMember "mode" t.mode,
    Json.textMember "agent_name" t.agentName,
    Json.textMember "command_name" t.commandName,
    Json.textMember "command_args" t.commandArgs,
    Json.textMember "origin" t.origin,
    Json.textMember "client_id" t.clientId,
    Json.member "status" (.string t.status),
    Json.textMember "result" t.result,
    Json.textMember "metadata" t.metadata,
    Json.textMember "error" t.error,
    Json.member "created_at" (.string t.createdAt),
    Json.member "updated_at" (.string t.updatedAt),
    Json.textMember "completed_at" t.completedAt,
    Json.listMember "progress" (t.progress.map Progress.toJson)]

/-- The task of a JSON text. -/
def ofText? (s : String) : Option Task := do
  ofDocument? (← Document.ofText? s)

/-- The JSON text of a task. -/
def text (t : Task) : String := t.toJson.text

end Task

end TaskWatch.Wire
