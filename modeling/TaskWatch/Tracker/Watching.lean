import TaskWatch.Tracker.Basic

/-!
# How watchers run

A watcher opens the stream of its task and folds the events that come into the state of its call. It
ends after a terminal event, when nothing more can come, or when its token is cancelled; events that
have come are folded before it notices the cancellation. When the stream cannot be opened, the call
shows why, unless the watch was cancelled.

A *poll* lets one watcher go on until it has to wait; `settle` polls all of them and lets evictions
run.
-/

namespace TaskWatch.Tracker

variable {σ : Type} [WatchSource σ]

/-- Folds events into a cell up to the first terminal one, which ends the call. Says whether there
was one. -/
def foldEvents (t : Tracker σ) (i : Nat) : List Event → Bool × Tracker σ
  | [] => (false, t)
  | event :: rest =>
    match t.cells[i]? with
    | none => (false, t)
    | some s =>
      let (terminal, s) := s.applyEvent t.catalog event
      let t := t.setCell i s
      if terminal then (true, t.markDone i) else foldEvents t i rest

/-- The end of a watcher. -/
def finishWatcher (t : Tracker σ) (w : Nat) (watcher : Watcher) : Tracker σ :=
  { t with watchers := t.watchers.set w { watcher with stage := .finished } }.finishWatch
    watcher.cell

/-- Lets a watcher that has a stream go on. -/
def follow (t : Tracker σ) (w : Nat) (watcher : Watcher) (stream : Nat) : Tracker σ :=
  let (events, more, source) := WatchSource.takeEvents t.source stream
  let (ended, t) := { t with source := source }.foldEvents watcher.cell events
  if ended || !more || t.tokens.isCancelled watcher.token then
    { t with source := WatchSource.release t.source stream }.finishWatcher w watcher
  else t

/-- The line that says why a stream cannot be opened; none for a watch that was cancelled. -/
def openFailureLine? (e : ClientError) : Option String :=
  if e = .cancelled then none else some ("error opening async stream: " ++ e.message)

/-- What a watcher does until it has to wait. -/
def wake (t : Tracker σ) (w : Nat) : Tracker σ :=
  match t.watchers[w]? with
  | none => t
  | some watcher =>
    match watcher.stage with
    | .finished => t
    | .following stream => t.follow w watcher stream
    | .starting =>
      match WatchSource.openWatch t.source watcher.taskId watcher.token with
      | (.ok stream, source) =>
        let watcher := { watcher with stage := .following stream }
        { t with source := source, watchers := t.watchers.set w watcher }.follow w watcher stream
      | (.error e, source) =>
        let t := { t with source := source }
        let t := match openFailureLine? e with
          | some line => t.updateCell watcher.cell fun s => (s.appendLine line).2
          | none => t
        t.finishWatcher w watcher

/-- Lets a watcher go on until it has to wait. -/
def poll (t : Tracker σ) (w : Nat) : Tracker σ := t.beside (·.wake w)

/-- Lets all watchers go on, in the order in which they were started. -/
def pollAll (t : Tracker σ) : Tracker σ :=
  (List.range t.watchers.length).foldl poll t

/-- Lets watchers and evictions run until all of them wait. -/
def settle (t : Tracker σ) : Tracker σ := t.pollAll.settleEvictions

/-- Lets time pass. What becomes due runs when the tracker settles. -/
def advance (t : Tracker σ) (millis : Nat) : Tracker σ := { t with now := t.now + millis }

end TaskWatch.Tracker
