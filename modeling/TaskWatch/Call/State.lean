import TaskWatch.Label
import TaskWatch.Metadata.Parser
import TaskWatch.Task.Event
import TaskWatch.Token

/-!
# The state of a call

What is known of one tool call: the task and the session it belongs to, its label with the tier the
label came from, its last progress lines, and how far it has come. A call is *watched* while a
watcher follows its task, *done* once it has ended, and *disposable* when it is done and no longer
watched; exactly then, and only once, its cleanup is claimed by whoever made it disposable.
-/

namespace TaskWatch

/-- The state of one call. -/
structure CallState where
  callId : String
  /-- How many lines are kept; at least one. -/
  capacity : Nat
  taskId : Option String := none
  sessionId : Option String := none
  label : String := ""
  tier : LabelTier := .none
  lines : List String := []
  watching : Bool := false
  done : Bool := false
  /-- What cancels the running watch. -/
  token : Option Token := none
  cleanupClaimed : Bool := false
  deriving DecidableEq, Repr

namespace CallState

/-- The state of a new call. -/
def new (callId : String) (capacity : Nat) : CallState :=
  { callId := callId, capacity := max capacity 1 }

/-- Whether the call may be forgotten. -/
def disposable (s : CallState) : Bool := s.done && !s.watching

/-- The label to show, and the lines. -/
def snapshot (s : CallState) : String × List String :=
  (if Text.isBlank s.label then defaultLabel else s.label, s.lines)

/-! ## Ids and label -/

/-- Binds the task. The first id that is not blank stays. -/
def setTaskId (s : CallState) (id : String) : Bool × CallState :=
  match Text.nonBlank? id, s.taskId with
  | some id, none => (true, { s with taskId := some id })
  | _, _ => (false, s)

/-- Binds the session. The first id that is not blank stays. -/
def setSessionId (s : CallState) (id : String) : CallState :=
  match Text.nonBlank? id, s.sessionId with
  | some id, none => { s with sessionId := some id }
  | _, _ => s

/-- Whether a label of a tier replaces the one that is held: a higher tier does, and the same tier
does when there is no label, or when an external one is corrected. -/
def accepts (s : CallState) (label : String) (tier : LabelTier) : Bool :=
  s.tier.rank < tier.rank ||
    (tier == s.tier && (Text.isBlank s.label ||
      (tier == .external && !Text.eqIgnoringAsciiCase s.label label)))

/-- Offers a label, and says whether it was taken. -/
def updateLabel (s : CallState) (candidate : String) (tier : LabelTier) : Bool × CallState :=
  match Text.nonBlank? candidate with
  | none => (false, s)
  | some label =>
    if s.accepts label tier then (true, { s with label := label, tier := tier }) else (false, s)

/-! ## Lines -/

/-- The last lines that fit. -/
def keepLast (s : CallState) (lines : List String) : List String :=
  lines.drop (lines.length - s.capacity)

/-- Takes over lines, unless all of them are blank. -/
def replaceLines (s : CallState) (lines : List String) : CallState :=
  let lines := Metadata.normalizeLines lines s.capacity
  if lines.isEmpty then s else { s with lines := lines }

/-- Takes over lines as long as there are none. -/
def ensureInitial (s : CallState) (lines : List String) : CallState :=
  if s.lines.isEmpty then s.replaceLines lines else s

/-- Adds a line at the end, unless it is blank or repeats the last one. -/
def appendLine (s : CallState) (line : String) : Bool × CallState :=
  match Text.nonBlank? line with
  | none => (false, s)
  | some line =>
    if s.lines.getLast? = some line then (false, s)
    else (true, { s with lines := s.keepLast (s.lines ++ [line]) })

/-! ## The watch -/

/-- Claims the cleanup of a call that has become disposable. -/
def claimCleanup (s : CallState) : Bool × CallState :=
  if s.disposable && !s.cleanupClaimed then (true, { s with cleanupClaimed := true })
  else (false, s)

/-- Starts a watch if the task is known, the call is not done, and no watch is running. Gives the
task and the token of the watch. -/
def beginWatch (s : CallState) (tokens : Tokens) :
    Option (String × Token) × CallState × Tokens :=
  match s.taskId with
  | some taskId =>
    if s.done || s.watching then (none, s, tokens)
    else
      (some (taskId, tokens.next), { s with token := some tokens.next, watching := true },
        tokens.issue)
  | none => (none, s, tokens)

/-- Ends the watch, and says whether the caller has to see to the cleanup. -/
def finishWatch (s : CallState) : Bool × CallState :=
  claimCleanup { s with watching := false, token := none }

/-- Ends the call: a running watch is cancelled. Says whether the caller has to see to the
cleanup. -/
def markDone (s : CallState) (tokens : Tokens) : Bool × CallState × Tokens :=
  let (claimed, next) := claimCleanup { s with done := true, token := none }
  (claimed, next, tokens.cancelAny s.token)

/-- Cancels a running watch without ending the call. -/
def cancelWatch (s : CallState) (tokens : Tokens) : CallState × Tokens :=
  ({ s with token := none }, tokens.cancelAny s.token)

/-! ## Events -/

/-- Offers the labels that a task brings: its command or tool as a fallback, and the label in its
metadata. -/
def updateFromTask (s : CallState) (catalog : Catalog) (task : Task) : CallState :=
  let named := match Text.firstNonBlank? [task.commandName, task.toolName] with
    | some name => (s.updateLabel (catalog.labelFor name) .fallback).2
    | none => s
  match (Metadata.labelIn? Metadata.Parser.decode task.metadata {}).1 with
  | some label => (named.updateLabel label .metadata).2
  | none => named

/-- Offers the labels of an event's task. -/
def updateFromEvent (s : CallState) (catalog : Catalog) (event : Event) : CallState :=
  match event.task with
  | some task => s.updateFromTask catalog task
  | none => s

/-- Why a task failed: the error of the event, or that of its task. -/
def failureText (event : Event) : String :=
  (Text.firstNonBlank? [event.error, (event.task.map (·.error)).getD ""]).getD "failed"

/-- Folds an event into the state, and says whether it was the last of its watch. -/
def applyEvent (s : CallState) (catalog : Catalog) (event : Event) : Bool × CallState :=
  match event.kind with
  | .snapshot =>
    let next := s.updateFromEvent catalog event
    match event.task with
    | some task => (false, next.replaceLines (task.progress.filterMap Progress.displayLine))
    | none => (false, next)
  | .progress | .other _ =>
    let next := s.updateFromEvent catalog event
    match event.progress.bind Progress.displayLine with
    | some line => (false, (next.appendLine line).2)
    | none => (false, next)
  | .completed =>
    let next := s.updateFromEvent catalog event
    let shown := match event.task with
      | some task => (next.appendLine task.result).2
      | none => next
    (true, (shown.appendLine "completed").2)
  | .failed =>
    let next := s.updateFromEvent catalog event
    (true, (next.appendLine ("failed: " ++ failureText event)).2)
  | .deleted =>
    (true, (s.appendLine ((Text.nonBlank? event.error).getD "task deleted")).2)

end CallState

end TaskWatch
