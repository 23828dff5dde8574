import TaskWatch.Label
import TaskWatch.Task.Basic

/-!
# Metadata of a submitted task

The result of a call that submits a task carries metadata about it: the ids of the task, and the
labels known when it was submitted, in the shape in which they are found again.
-/

namespace TaskWatch.Metadata

/-- The labels known when a task is submitted. -/
structure SubmissionLabels where
  tool : String := ""
  command : String := ""
  commandLabel : String := ""
  progressLabel : String := ""
  agent : String := ""
  deriving DecidableEq, Repr

/-- The part of the metadata about the task itself. -/
def submittedTask (task : Task) : Json :=
  Json.sorted [
    ("id", .string task.id),
    ("status", .string task.status),
    ("tool", .string task.toolName),
    ("session_id", .string task.sessionId),
    ("call_id", .string task.callId)]

/-- The part of the metadata about labels. -/
def submittedContext (labels : SubmissionLabels) (catalog : Catalog) : Members :=
  let label := Text.firstNonBlank?
    [labels.commandLabel, labels.progressLabel, labels.command, labels.tool]
  let title := Text.nonBlank? labels.command
  let agent := Text.nonBlank? labels.agent
  [label.map fun s => ("label", Json.string (catalog.labelFor s)),
    agent.map fun s => ("name", Json.string s),
    agent.map fun s => ("subtitle", Json.string s),
    title.map fun s => ("title", Json.string (catalog.labelFor s))].filterMap id

/-- The metadata of a submitted task. The labels stand twice, for readers of either key. -/
def submission (task : Task) (labels : SubmissionLabels) (catalog : Catalog) : Json :=
  let context := submittedContext labels catalog
  if context.isEmpty then .object [("async_task", submittedTask task)]
  else .object [
    ("async_context", .object context),
    ("async_task", submittedTask task),
    ("context", .object context)]

end TaskWatch.Metadata
