import TaskWatch.Task.Basic
import TaskWatch.Wire.Response

/-!
# What an answer is worth

A response line has to say that the request succeeded, and to carry what was asked for. The daemon's
own message is the failure when it says otherwise, or a standard message when that is blank.
-/

namespace TaskWatch

/-- The failure that a daemon reports. -/
def ClientError.reported (message standard : String) : ClientError :=
  .daemon ((Text.nonBlank? message).getD standard)

namespace Wire.Response

/-- The response of a line. -/
def ofLine (line : String) : Except ClientError Response :=
  match ofText? line with
  | some response => .ok response
  | none => .error (.decode .response)

/-- The response if it reports success. -/
def succeeded (r : Response) (standard : String) : Except ClientError Response :=
  if r.success then .ok r else .error (.reported r.error standard)

/-- The task that the response has to carry. -/
def theTask (r : Response) : Except ClientError TaskWatch.Task :=
  match r.task with
  | some task => TaskWatch.Task.ofWire task
  | none => .error (.missingPayload .task)

/-- The tasks of the response, in its order; the first that cannot be read is the failure. -/
def allTasks (r : Response) : Except ClientError (List TaskWatch.Task) :=
  r.tasks.mapM TaskWatch.Task.ofWire

/-- The counts that the response has to carry. -/
def theMetrics (r : Response) : Except ClientError Metrics :=
  match r.metrics with
  | some metrics => .ok metrics
  | none => .error (.missingPayload .metrics)

end Wire.Response

end TaskWatch
