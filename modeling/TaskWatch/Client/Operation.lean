import TaskWatch.Client.Connection
import TaskWatch.Task.Listing

/-!
# The calls of a client

Each call is one request on a connection of its own, and the first line that comes back decides what
becomes of it. Ids and names are sent without the blanks around them; a call that cannot mean
anything without one is refused before anything is sent.
-/

namespace TaskWatch

/-- What a deletion is about: one task, or all tasks of a session or of a call. -/
inductive DeleteScope where
  | task (key : String)
  | session (key : String)
  | call (key : String)
  deriving DecidableEq, Repr

namespace DeleteScope

/-- The key without the blanks around it. -/
def key : DeleteScope → String
  | .task key | .session key | .call key => Text.trim key

/-- The request for a deletion. It has exactly one key. -/
def request (scope : DeleteScope) : Wire.Request :=
  match scope with
  | .task _ => { kind := .toolDelete, taskId := scope.key }
  | .session _ => { kind := .toolDelete, sessionId := scope.key }
  | .call _ => { kind := .toolDelete, callId := scope.key }

end DeleteScope

/-- A task to be started. -/
structure Submission where
  toolName : String
  toolArgs : String
  workingDir : String := ""
  sessionId : String := ""
  callId : String := ""
  origin : String := ""
  clientId : String := ""
  mode : String := ""
  agentName : String := ""
  command : String := ""
  commandArgs : String := ""
  deriving DecidableEq, Repr

namespace Submission

/-- Where a task comes from when nothing else is said. -/
def standardOrigin : String := "tui"

/-- The arguments of a tool when there are none. -/
def noArguments : String := "\x7b\x7d"

/-- The request for a task. It has to name a tool; the session stands for the client when no client
is named. -/
def request (s : Submission) : Except ClientError Wire.Request :=
  match Text.nonBlank? s.toolName with
  | none => .error (.invalidRequest .noToolName)
  | some toolName =>
    let sessionId := Text.trim s.sessionId
    .ok {
      kind := .toolSubmit
      toolName := toolName
      toolArgs := if Text.isBlank s.toolArgs then noArguments else s.toolArgs
      workingDir := Text.trim s.workingDir
      sessionId := sessionId
      callId := Text.trim s.callId
      origin := (Text.nonBlank? s.origin).getD standardOrigin
      clientId := (Text.nonBlank? s.clientId).getD sessionId
      mode := Text.trim s.mode
      agentName := Text.trim s.agentName
      command := Text.trim s.command
      commandArgs := s.commandArgs }

end Submission

namespace Client

/-- One request under a limit for lines. -/
def request (client : Client) (request : Wire.Request) (maxLine : Nat) (net : Network) :
    Except ClientError Wire.Response × Network :=
  client.withConnection maxLine
    (Conversation.roundTrip request client.options.requestTimeout) net

/-- One request, and what its response is worth: the part that is asked for, unless the response
reports a failure. -/
def call {α : Type} (client : Client) (request : Wire.Request) (maxLine : Nat) (standard : String)
    (part : Wire.Response → Except ClientError α) (net : Network) :
    Except ClientError α × Network :=
  let (response, net) := client.request request maxLine net
  (do part (← (← response).succeeded standard), net)

/-- What a failure is called when the daemon gives no message. -/
def standardFailure : String := "unknown error"

/-- The processes that the daemon looks after. -/
def listProcesses (client : Client) (net : Network) :
    Except ClientError (List Wire.ProcessInfo) × Network :=
  client.call { kind := .list } client.options.maxLineBytes standardFailure (.ok ·.processes) net

/-- Starts a task. -/
def submit (client : Client) (submission : Submission) (net : Network) :
    Except ClientError Task × Network :=
  match submission.request with
  | .error e => (.error e, net)
  | .ok request =>
    client.call request client.options.maxTaskLineBytes standardFailure (·.theTask) net

/-- The task with an id. -/
def get (client : Client) (taskId : String) (net : Network) : Except ClientError Task × Network :=
  match Text.nonBlank? taskId with
  | none => (.error (.invalidRequest .noTaskId), net)
  | some id =>
    client.call { kind := .toolGet, taskId := id } client.options.maxTaskLineBytes
      "task not found" (·.theTask) net

/-- All tasks, in the order of the daemon. -/
def list (client : Client) (net : Network) : Except ClientError (List Task) × Network :=
  client.call { kind := .toolList } client.options.maxTaskLineBytes standardFailure (·.allTasks) net

/-- The tasks that pass a filter, in the order of the daemon. -/
def listFiltered (client : Client) (filter : TaskFilter) (net : Network) :
    Except ClientError (List Task) × Network :=
  let (tasks, net) := client.list net
  (filter.apply <$> tasks, net)

/-- Deletes tasks. With a blank key there is nothing to do. -/
def delete (client : Client) (scope : DeleteScope) (net : Network) :
    Except ClientError Unit × Network :=
  if scope.key = "" then (.ok (), net)
  else
    client.call scope.request client.options.maxTaskLineBytes standardFailure (fun _ => .ok ()) net

/-- The counts of the daemon. -/
def metrics (client : Client) (net : Network) : Except ClientError Wire.Metrics × Network :=
  client.call { kind := .toolMetrics } client.options.maxLineBytes "failed to fetch metrics"
    (·.theMetrics) net

/-- The request that tells an agent of a change. -/
def lifecycleRequest (agentName kind : String) (data : Json) : Wire.Request :=
  { kind := .lifecycleEvent
    agentName := Text.trim agentName
    lifecycleType := Text.trim kind
    lifecycleData := some data }

/-- How long telling an agent may take altogether. -/
def lifecycleLimit : Duration := .seconds 2

/-- The client with a deadline: it starts now and has no longer than a limit, nor than a request may
take anyway. -/
def within (client : Client) (limit : Duration) : Client :=
  client.withOptions
    (client.options.before (some (client.options.requestTimeout.min limit)) (.seconds 0))

/-- Tells an agent of a change. Failures do not matter. -/
def sendLifecycle (client : Client) (agentName kind : String) (data : Json) (net : Network) :
    Network :=
  let hasty := client.within lifecycleLimit
  (hasty.request (lifecycleRequest agentName kind data) hasty.options.maxLineBytes net).2

end Client

end TaskWatch
