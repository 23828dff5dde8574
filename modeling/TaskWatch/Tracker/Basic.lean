import TaskWatch.Call.Reading
import TaskWatch.Tracker.Source

/-!
# The tracker

A tracker keeps the state of every call of a client session. Each state is a *cell*, numbered in
the order in which they were made; the calls map a call's id to its current cell. A call that is
bound to a task is followed by a *watcher*, and a cell that has become disposable is forgotten after
a delay by an *eviction*.

Watchers and evictions need a runtime that runs them. Where there is one they run beside the caller,
and the delay of an eviction starts when it is first run; where there is none no watcher starts, and
an eviction is *deferred*: it waits for the first render after it is due. A tracker that was given a
runtime always has it, and any other has the one its caller is in, if any. Cells, watchers and
evictions stay listed when they are over.
-/

namespace TaskWatch

/-- How far a watcher has come. -/
inductive WatcherStage where
  /-- It has not opened its stream yet. -/
  | starting
  | following (stream : Nat)
  | finished
  deriving DecidableEq, Repr

/-- One watch of the task of a call. -/
structure Watcher where
  cell : Nat
  taskId : String
  token : Token
  stage : WatcherStage := .starting
  deriving DecidableEq, Repr

/-- The plan to forget a cell. -/
structure Eviction where
  cell : Nat
  /-- Whether it waits for a render, for want of a runtime. -/
  deferred : Bool
  /-- When it is due; none until its delay starts to run. -/
  due : Option Nat
  /-- Whether it has run. -/
  ran : Bool := false
  deriving DecidableEq, Repr

/-- The calls of one client session. -/
structure Tracker (σ : Type) where
  config : TrackerConfig := {}
  catalog : Catalog := {}
  /-- Whether the caller has a runtime to start watchers and evictions on. -/
  runtime : Bool := true
  /-- Whether the tracker was shut down. -/
  closed : Bool := false
  /-- The state of every call ever made. -/
  cells : List CallState := []
  /-- The current cell of each call. -/
  calls : List (String × Nat) := []
  watchers : List Watcher := []
  evictions : List Eviction := []
  /-- The milliseconds since the start. -/
  now : Nat := 0
  source : σ

/-- What a call shows when its watcher cannot be started. -/
def noRuntimeLine : String := "async progress unavailable: no tokio runtime"

namespace Tracker

variable {σ : Type}

/-- A tracker that has seen no call. -/
def new (config : TrackerConfig) (catalog : Catalog) (runtime : Bool) (source : σ) : Tracker σ :=
  { config := config, catalog := catalog, runtime := runtime, source := source }

/-! ## Cells -/

/-- The current cell of a call. -/
def cellOf? (t : Tracker σ) (callId : String) : Option Nat :=
  (t.calls.find? (·.1 == callId)).map (·.2)

/-- The state of a call. -/
def state? (t : Tracker σ) (callId : String) : Option CallState :=
  (t.cellOf? (Text.trim callId)).bind (t.cells[·]?)

/-- How many calls are kept. -/
def size (t : Tracker σ) : Nat := t.calls.length

def setCell (t : Tracker σ) (i : Nat) (s : CallState) : Tracker σ :=
  { t with cells := t.cells.set i s }

/-- Changes the state of a cell. -/
def updateCell (t : Tracker σ) (i : Nat) (change : CallState → CallState) : Tracker σ :=
  { t with cells := t.cells.modify i change }

/-- The cell of a call, made if there is none. The id must not be blank. -/
def ensureCell (t : Tracker σ) (callId : String) : Nat × Tracker σ :=
  match t.cellOf? callId with
  | some i => (i, t)
  | none =>
    let i := t.cells.length
    (i, { t with
      cells := t.cells ++ [CallState.new callId t.config.progressCapacity]
      calls := t.calls ++ [(callId, i)] })

/-! ## Evictions -/

/-- When a cell that becomes disposable now may be forgotten. -/
def cleanupTime (t : Tracker σ) : Nat := t.now + t.config.cleanupDelay.millis

/-- The plan to forget a cell that has become disposable. Without a runtime its delay runs from
now. -/
def evictionOf (t : Tracker σ) (i : Nat) : Eviction :=
  if t.runtime then { cell := i, deferred := false, due := none }
  else { cell := i, deferred := true, due := some t.cleanupTime }

/-- Plans to forget a cell. -/
def schedule (t : Tracker σ) (i : Nat) : Tracker σ :=
  { t with evictions := t.evictions ++ [t.evictionOf i] }

/-- Plans to forget a cell if its cleanup was claimed. -/
def scheduleIf (t : Tracker σ) (claimed : Bool) (i : Nat) : Tracker σ :=
  if claimed then t.schedule i else t

/-- Forgets a cell if it is disposable and still the current one of its call. -/
def evict (t : Tracker σ) (i : Nat) : Tracker σ :=
  match t.cells[i]? with
  | some s =>
    if t.cellOf? s.callId = some i && s.disposable then
      { t with calls := t.calls.filter (·.1 != s.callId) }
    else t
  | none => t

/-- Runs the eviction with a number. -/
def runEviction (t : Tracker σ) (k : Nat) (e : Eviction) : Tracker σ :=
  { t with evictions := t.evictions.set k { e with ran := true } }.evict e.cell

/-- Lets an eviction that runs beside the caller go on: its delay starts, and once that is over the
cell is forgotten. -/
def pollEviction (t : Tracker σ) (k : Nat) : Tracker σ :=
  match t.evictions[k]? with
  | none => t
  | some e =>
    if e.deferred || e.ran then t
    else
      let due := e.due.getD t.cleanupTime
      let e := { e with due := some due }
      if due ≤ t.now then t.runEviction k e else { t with evictions := t.evictions.set k e }

/-- Lets all evictions beside the caller go on. -/
def settleEvictions (t : Tracker σ) : Tracker σ :=
  (List.range t.evictions.length).foldl pollEviction t

/-- Runs a deferred eviction if it is due. -/
def sweepEviction (t : Tracker σ) (k : Nat) : Tracker σ :=
  match t.evictions[k]? with
  | none => t
  | some e =>
    if e.deferred && !e.ran && e.due.any (· ≤ t.now) then t.runEviction k e else t

/-- Runs every deferred eviction that is due. -/
def sweep (t : Tracker σ) : Tracker σ :=
  (List.range t.evictions.length).foldl sweepEviction t

variable [WatchSource σ]

/-! ## The end of a call -/

def tokens (t : Tracker σ) : Tokens := WatchSource.tokens t.source

def withTokens (t : Tracker σ) (tokens : Tokens) : Tracker σ :=
  { t with source := WatchSource.withTokens t.source tokens }

/-- Marks a cell done, which cancels its watch. -/
def markDone (t : Tracker σ) (i : Nat) : Tracker σ :=
  match t.cells[i]? with
  | some s =>
    let (claimed, s, tokens) := s.markDone t.tokens
    ((t.setCell i s).withTokens tokens).scheduleIf claimed i
  | none => t

/-- Marks the end of the watch of a cell. -/
def finishWatch (t : Tracker σ) (i : Nat) : Tracker σ :=
  match t.cells[i]? with
  | some s =>
    let (claimed, s) := s.finishWatch
    (t.setCell i s).scheduleIf claimed i
  | none => t

/-- What is done beside the caller, where there is a runtime. -/
def beside (t : Tracker σ) (change : Tracker σ → Tracker σ) : Tracker σ :=
  { change { t with runtime := true } with runtime := t.runtime }

/-- Cancels the watch of a cell. -/
def cancelWatch (t : Tracker σ) (i : Nat) : Tracker σ :=
  match t.cells[i]? with
  | some s =>
    let (s, tokens) := s.cancelWatch t.tokens
    (t.setCell i s).withTokens tokens
  | none => t

end Tracker

end TaskWatch
