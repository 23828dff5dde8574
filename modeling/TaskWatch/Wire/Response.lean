import TaskWatch.Wire.Task

/-!
# Responses

A daemon answers a request with one line: whether it succeeded, why it failed, and what the request
asked for. Counts and process numbers are integers of 64 bits with a sign.
-/

namespace TaskWatch.Wire

/-- A process that a daemon supervises. -/
structure ProcessInfo where
  name : String
  status : String := ""
  description : String := ""
  pid : Int64 := 0
  restartCount : Int64 := 0
  /-- Seconds since the process was started. -/
  uptime : Int64 := 0
  deriving DecidableEq, Repr

/-- The counts of a daemon's task store. -/
structure Metrics where
  submitted : Int64 := 0
  inFlight : Int64 := 0
  completed : Int64 := 0
  failed : Int64 := 0
  queueDepth : Int64 := 0
  workerCount : Int64 := 0
  deriving DecidableEq, Repr

/-- The answer to a request. -/
structure Response where
  success : Bool := false
  error : String := ""
  processes : List ProcessInfo := []
  task : Option Task := none
  tasks : List Task := []
  metrics : Option Metrics := none
  deriving DecidableEq, Repr

namespace ProcessInfo

/-- The fields in declaration order. -/
def fieldNames : List String :=
  ["name", "status", "description", "pid", "restart_count", "uptime"]

def ofDocument? (d : Document) : Option ProcessInfo := do
  let fields ← Fields.ofDocument? fieldNames d
  return {
    name := ← fields.required "name" Document.text?
    status := ← fields.text "status"
    description := ← fields.text "description"
    pid := ← fields.int "pid"
    restartCount := ← fields.int "restart_count"
    uptime := ← fields.int "uptime" }

def toJson (p : ProcessInfo) : Json :=
  Json.record [
    Json.member "name" (.string p.name),
    Json.member "status" (.string p.status),
    Json.textMember "description" p.description,
    Json.intMember "pid" p.pid,
    Json.intMember "restart_count" p.restartCount,
    Json.intMember "uptime" p.uptime]

end ProcessInfo

namespace Metrics

/-- The fields in declaration order. -/
def fieldNames : List String :=
  ["submitted", "in_flight", "completed", "failed", "queue_depth", "worker_count"]

def ofDocument? (d : Document) : Option Metrics := do
  let fields ← Fields.ofDocument? fieldNames d
  return {
    submitted := ← fields.int "submitted"
    inFlight := ← fields.int "in_flight"
    completed := ← fields.int "completed"
    failed := ← fields.int "failed"
    queueDepth := ← fields.int "queue_depth"
    workerCount := ← fields.int "worker_count" }

def toJson (m : Metrics) : Json :=
  Json.record [
    Json.intMember "submitted" m.submitted,
    Json.intMember "in_flight" m.inFlight,
    Json.intMember "completed" m.completed,
    Json.intMember "failed" m.failed,
    Json.intMember "queue_depth" m.queueDepth,
    Json.intMember "worker_count" m.workerCount]

end Metrics

namespace Response

/-- The fields in declaration order. -/
def fieldNames : List String := ["success", "error", "processes", "task", "tasks", "metrics"]

def ofDocument? (d : Document) : Option Response := do
  let fields ← Fields.ofDocument? fieldNames d
  return {
    success := ← fields.flag "success"
    error := ← fields.text "error"
    processes := ← fields.list "processes" ProcessInfo.ofDocument?
    task := ← fields.optional "task" Task.ofDocument?
    tasks := ← fields.list "tasks" Task.ofDocument?
    metrics := ← fields.optional "metrics" Metrics.ofDocument? }

def toJson (r : Response) : Json :=
  Json.record [
    Json.member "success" (.bool r.success),
    Json.textMember "error" r.error,
    Json.listMember "processes" (r.processes.map ProcessInfo.toJson),
    Json.partMember "task" (r.task.map Task.toJson),
    Json.listMember "tasks" (r.tasks.map Task.toJson),
    Json.partMember "metrics" (r.metrics.map Metrics.toJson)]

/-- The response of a JSON text. -/
def ofText? (s : String) : Option Response := do
  ofDocument? (← Document.ofText? s)

/-- The JSON text of a response. -/
def text (r : Response) : String := r.toJson.text

/-- The line that carries a response. -/
def line (r : Response) : String := r.text ++ "\n"

end Response

end TaskWatch.Wire
