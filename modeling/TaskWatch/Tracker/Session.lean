import TaskWatch.Broker.Session
import TaskWatch.Tracker.Render
import TaskWatch.Tracker.Watching

/-!
# A tracker in use

The *steps* of a tracker are what can happen to it in one piece: an operation of the caller, one
poll of a watcher or of an eviction, the passing of time, and the caller's coming to or leaving a
runtime. A run is any list of steps.

A `LocalTracker` is a tracker whose tasks run in the same process, together with the publications
made so far; its steps are those of the tracker and what is done with its broker. A caller that
waits for its publication lets everything else settle in the meantime (`LocalTracker.publishNow`).
-/

namespace TaskWatch

/-- What can happen to a tracker in one piece. -/
inductive TrackerStep where
  | render (call : ToolCall) (result : ToolResult)
  | updateSnapshot (callId label : String) (lines : List String) (finished : Bool)
  | cancelSession (sessionId : String)
  | cancelCall (callId : String)
  | shutdown
  | poll (watcher : Nat)
  | pollEviction (eviction : Nat)
  | advance (millis : Nat)
  /-- The caller comes to a runtime, or leaves it. -/
  | runtime (available : Bool)

/-- The effect of a step. -/
def Tracker.step {σ : Type} [WatchSource σ] (t : Tracker σ) : TrackerStep → Tracker σ
  | .render call result => (t.render call result).2
  | .updateSnapshot callId label lines finished => t.updateSnapshot callId label lines finished
  | .cancelSession sessionId => (t.cancelSession sessionId).2
  | .cancelCall callId => (t.cancelCall callId).2
  | .shutdown => t.shutdown
  | .poll w => t.poll w
  | .pollEviction k => t.pollEviction k
  | .advance millis => t.advance millis
  | .runtime available => { t with runtime := available }

/-- A tracker over a broker, and the publications made so far. -/
structure LocalTracker where
  tracker : Tracker Broker
  publications : List PublicationState := []

namespace LocalTracker

/-- A tracker that has seen no call, over a new broker. -/
def new (config : TrackerConfig) (catalog : Catalog) (runtime : Bool) (capacity : Nat) :
    LocalTracker :=
  { tracker := .new config catalog runtime (.new capacity) }

/-- What can happen in one piece. -/
inductive Step where
  | tracker (step : TrackerStep)
  /-- Starts a publication and tries to finish it. -/
  | publish (taskId : String) (event : Event)
  /-- Tries to go on with a publication. -/
  | resume (publication : Nat)
  | close (taskId : String)
  | reject (taskId message : String)

def withBroker (t : LocalTracker) (b : Broker) : LocalTracker :=
  { t with tracker := { t.tracker with source := b } }

/-- Tries to go on with a publication. -/
def resume (t : LocalTracker) (i : Nat) : LocalTracker :=
  match t.publications[i]? with
  | some (.inl p) =>
    let (state, b) := t.tracker.source.resume p
    { t.withBroker b with publications := t.publications.set i state }
  | _ => t

/-- Starts a publication and tries to finish it. -/
def publish (t : LocalTracker) (taskId : String) (event : Event) : LocalTracker :=
  let (p, b) := t.tracker.source.publish taskId event
  let started : LocalTracker :=
    { t.withBroker b with publications := t.publications ++ [.inl p] }
  started.resume t.publications.length

/-- The effect of a step. -/
def step (t : LocalTracker) : Step → LocalTracker
  | .tracker step => { t with tracker := t.tracker.step step }
  | .publish taskId event => t.publish taskId event
  | .resume i => t.resume i
  | .close taskId => t.withBroker (t.tracker.source.close taskId)
  | .reject taskId message => t.withBroker (t.tracker.source.reject taskId message)

/-- The effect of a list of steps. -/
def run (t : LocalTracker) (steps : List Step) : LocalTracker := steps.foldl step t

/-- Lets watchers and evictions run until all of them wait. -/
def settle (t : LocalTracker) : LocalTracker := { t with tracker := t.tracker.settle }

/-- Waits for a publication: while it is under way, everything else settles. Each wait empties a
queue, so there are no more waits than the given number of streams. -/
def await (t : LocalTracker) (i : Nat) : Nat → LocalTracker
  | 0 => t
  | waits + 1 =>
    match t.publications[i]? with
    | some (.inl _) => (t.settle.resume i).await i waits
    | _ => t

/-- The number of streams that a publication reached. -/
def reached (t : LocalTracker) (i : Nat) : Nat :=
  match t.publications[i]? with
  | some (.inr count) => count
  | some (.inl p) => p.delivered
  | none => 0

/-- Publishes an event and waits until it is published; gives the number of streams it reached. -/
def publishNow (t : LocalTracker) (taskId : String) (event : Event) : Nat × LocalTracker :=
  let i := t.publications.length
  let streams := t.tracker.source.liveStreams taskId
  let t := (t.publish taskId event).await i streams.length
  (t.reached i, t)

end LocalTracker

end TaskWatch
