import TaskWatch.Tracker.Basic

/-!
# What the caller does with a tracker

Rendering a call takes in what the call and its result say, starts a watcher when the task of the
call is known, and gives the view of the call. Snapshots from outside overrule what was found, a
session can be cancelled as a whole, and a shutdown stops every watch for good.
-/

namespace TaskWatch.Tracker

variable {σ : Type} [WatchSource σ]

/-- Starts a watcher for a cell whose task is known, unless it is done or watched already, or the
tracker was shut down. A render is one step, so no shutdown can come between the look at `closed` and
the claim of the watch: the second look that would give the claim back is left out. -/
def startWatcher (t : Tracker σ) (i : Nat) : Tracker σ :=
  if t.closed then t
  else match t.cells[i]? with
    | none => t
    | some s =>
      match s.beginWatch t.tokens with
      | (none, _, _) => t
      | (some (taskId, token), s, tokens) =>
        let t := (t.setCell i s).withTokens tokens
        if t.runtime then { t with watchers := t.watchers ++ [⟨i, taskId, token, .starting⟩] }
        else (t.updateCell i fun s => (s.appendLine noRuntimeLine).2).finishWatch i

/-- Takes a call and its result into a cell. -/
def absorb (t : Tracker σ) (i : Nat) (call : ToolCall) (result : ToolResult) : Tracker σ :=
  let t := t.updateCell i (·.absorb t.catalog call result)
  let t := if call.finished || result.isError then t.markDone i else t
  t.startWatcher i

/-- The view of a call in a state. -/
def viewOf (catalog : Catalog) (s : CallState) (call : ToolCall) (result : ToolResult) :
    CallView :=
  let (label, lines) := s.snapshot
  { label := catalog.prefer label call result
    status := .ofCall call result
    lines := lines
    showSpinner := !call.finished && !result.isError }

/-- Renders a call: the view, and the tracker after taking in the call. A call without an id, its
own or that of its result, is pending. -/
def render (t : Tracker σ) (call : ToolCall) (result : ToolResult) : CallView × Tracker σ :=
  let t := t.sweep
  match Text.firstNonBlank? [call.id, result.toolCallId] with
  | none => (.pending, t)
  | some callId =>
    let (i, t) := t.ensureCell callId
    let t := t.absorb i call result
    match t.cells[i]? with
    | some s => (viewOf t.catalog s call result, t)
    | none => (.pending, t)

/-- A snapshot of a call from outside. A blank id names no call. -/
def updateSnapshot (t : Tracker σ) (callId label : String) (lines : List String)
    (finished : Bool) : Tracker σ :=
  match Text.nonBlank? callId with
  | none => t
  | some callId =>
    let (i, t) := t.ensureCell callId
    let t := t.updateCell i fun s => (s.updateLabel label .external).2.replaceLines lines
    if finished then t.markDone i else t

/-- The current cells of a session. -/
def sessionCells (t : Tracker σ) (sessionId : String) : List Nat :=
  (t.calls.map (·.2)).filter fun i => (t.cells[i]?).any (·.sessionId == some sessionId)

/-- Ends every call of a session, and says how many there are. A blank id names no session. -/
def cancelSession (t : Tracker σ) (sessionId : String) : Nat × Tracker σ :=
  match Text.nonBlank? sessionId with
  | none => (0, t)
  | some sessionId =>
    let cells := t.sessionCells sessionId
    (cells.length, cells.foldl markDone t)

/-- Stops every watch; none starts afterwards. -/
def shutdown (t : Tracker σ) : Tracker σ :=
  (t.calls.map (·.2)).foldl cancelWatch { t with closed := true }

/-- Cancels the watch of a call without ending the call, and says whether there is such a call. -/
def cancelCall (t : Tracker σ) (callId : String) : Bool × Tracker σ :=
  match t.cellOf? (Text.trim callId) with
  | some i => (true, t.cancelWatch i)
  | none => (false, t)

end TaskWatch.Tracker
