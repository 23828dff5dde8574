import TaskWatch.Channel.Basic

/-!
# Watching tasks in the same process

A `Broker` hands events of tasks straight to those who watch them. Each watch is a stream, numbered
in the order in which they were opened, and each task has a list of the streams that are *live* for
it: an event that is published for the task is delivered to them in order. A terminal event closes
them, as does the end of the task.

Publishing a terminal event has to wait while one of the streams has no room. A `Publication` is
such a publication under way: it has taken the live streams of its task, and gives back those that
stay live when it ends.
-/

namespace TaskWatch

/-- A broker of events. -/
structure Broker where
  /-- How many events may be queued on a stream. -/
  capacity : Nat
  tokens : Tokens := {}
  /-- Every stream opened so far. -/
  streams : List Channel := []
  /-- The live streams of each task, oldest first. -/
  live : List (String × List Nat) := []
  /-- The tasks whose next watch fails, and the messages. -/
  rejections : List (String × String) := []
  deriving DecidableEq, Repr

/-- A publication under way. -/
structure Publication where
  taskId : String
  event : Event
  /-- The streams to deliver to, the next one first. -/
  pending : List Nat
  /-- The streams that stay live. -/
  kept : List Nat := []
  /-- How many streams took the event. -/
  delivered : Nat := 0
  deriving DecidableEq, Repr

namespace Broker

/-- A new broker. -/
def new (capacity : Nat) : Broker := { capacity := max capacity 1 }

def stream? (b : Broker) (i : Nat) : Option Channel := b.streams[i]?

def setStream (b : Broker) (i : Nat) (ch : Channel) : Broker :=
  { b with streams := b.streams.set i ch }

def cancel (b : Broker) (token : Token) : Broker := { b with tokens := b.tokens.cancel token }

/-- The live streams of a task. -/
def liveStreams (b : Broker) (taskId : String) : List Nat :=
  ((b.live.find? (·.1 == taskId)).map (·.2)).getD []

/-- Whether the token of a stream is cancelled. -/
def streamCancelled (b : Broker) (i : Nat) : Bool :=
  match b.stream? i with
  | some ch => b.tokens.isCancelled ch.token
  | none => true

/-- How many streams a publication for the task would reach. -/
def subscriberCount (b : Broker) (taskId : String) : Nat :=
  ((b.liveStreams taskId).filter (!b.streamCancelled ·)).length

/-- The broker without live streams for a task. -/
def withoutTask (b : Broker) (taskId : String) : Broker :=
  { b with live := b.live.filter (·.1 != taskId) }

/-- The broker with more live streams for a task. -/
def addLive (b : Broker) (taskId : String) (streams : List Nat) : Broker :=
  if streams.isEmpty then b
  else { b.withoutTask taskId with
    live := (taskId, b.liveStreams taskId ++ streams) :: (b.withoutTask taskId).live }

/-- Lets the producer of a stream go. -/
def dropSink (b : Broker) (i : Nat) : Broker :=
  match b.stream? i with
  | some ch => b.setStream i ch.dropSink
  | none => b

/-- Closes a stream, which cancels its token, and lets its producer go. -/
def closeStream (b : Broker) (i : Nat) : Broker :=
  match b.stream? i with
  | some ch => (b.setStream i ch.close.dropSink).cancel ch.token
  | none => b

/-! ## Watching -/

/-- Lets go of every live stream that is cancelled. -/
def prune (b : Broker) : Broker :=
  let gone := (b.live.flatMap (·.2)).filter b.streamCancelled
  let live := b.live.map fun (taskId, streams) =>
    (taskId, streams.filter (!b.streamCancelled ·))
  gone.foldl dropSink { b with live := live.filter (!·.2.isEmpty) }

/-- Opens a watch that `token` cancels, and gives the number of its stream. A watch that is
cancelled already leaves everything as it is. -/
def watch (b : Broker) (taskId : String) (token : Token) : Except ClientError Nat × Broker :=
  if b.tokens.isCancelled token then (.error .cancelled, b)
  else match b.rejections.find? (·.1 == taskId) with
    | some (_, message) =>
      (.error (.daemon message), { b with rejections := b.rejections.filter (·.1 != taskId) })
    | none =>
      let b := b.prune
      let i := b.streams.length
      let opened := { b with streams := b.streams ++ [Channel.new taskId b.capacity token] }
      (.ok i, opened.addLive taskId [i])

/-- Makes the next watch of a task fail; a later message replaces an earlier one. -/
def reject (b : Broker) (taskId message : String) : Broker :=
  { b with rejections := (taskId, message) :: b.rejections.filter (·.1 != taskId) }

/-- Closes the live streams of a task. -/
def close (b : Broker) (taskId : String) : Broker :=
  (b.liveStreams taskId).foldl closeStream (b.withoutTask taskId)

/-! ## Publishing -/

/-- Starts a publication. -/
def publish (b : Broker) (taskId : String) (event : Event) : Publication × Broker :=
  ({ taskId := taskId, event := event, pending := b.liveStreams taskId }, b.withoutTask taskId)

/-- Takes a publication as far as it goes: what is left of it when it has to wait, or the number of
streams that took the event. -/
def advance (b : Broker) (p : Publication) : List Nat → (Publication ⊕ Nat) × Broker
  | [] => (.inr p.delivered, b.addLive p.taskId p.kept)
  | i :: rest =>
    match b.stream? i with
    | none => advance b p rest
    | some ch =>
      match ch.deliver b.tokens p.event with
      | (.waiting, _) => (.inl { p with pending := i :: rest }, b)
      | (.refused, _) => advance (b.closeStream i) p rest
      | (_, ch) =>
        let b := b.setStream i ch
        let p := { p with delivered := p.delivered + 1 }
        if p.event.isTerminal then advance (b.closeStream i) p rest
        else advance b { p with kept := p.kept ++ [i] } rest

/-- Goes on with a publication. -/
def resume (b : Broker) (p : Publication) : (Publication ⊕ Nat) × Broker :=
  advance b p p.pending

/-! ## Receiving -/

/-- Receives the oldest event of a stream that is held. -/
def receive (b : Broker) (i : Nat) : Option (Reception × Broker) :=
  match b.stream? i with
  | some ch =>
    if ch.hasStream then
      let (reception, ch) := ch.receive
      some (reception, b.setStream i ch)
    else none
  | none => none

/-- Takes all events that are queued on a stream, and says whether more may come. -/
def takeEvents (b : Broker) (i : Nat) : List Event × Bool × Broker :=
  match b.stream? i with
  | some ch => (ch.queue, ch.hasSink, b.setStream i { ch with queue := [] })
  | none => ([], false, b)

/-- Lets go of a stream, which cancels its token. -/
def dropStream (b : Broker) (i : Nat) : Broker :=
  match b.stream? i with
  | some ch => (b.setStream i ch.dropStream).cancel ch.token
  | none => b

end Broker

end TaskWatch
