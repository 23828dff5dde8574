import TaskWatch.Task.Event
import TaskWatch.Token

/-!
# Event channels

A watch hands events from a producer to a consumer through a queue of bounded length. An event that
finds the queue full is dropped and counted, so that a slow consumer never holds up the producer;
only a terminal event waits for room, so that the end of a task is never lost. Cancelling the
channel's token ends deliveries; events already queued can still be received.
-/

namespace TaskWatch

/-- How far a watch has come. -/
inductive WatchPhase where
  /-- The watch is being requested. -/
  | opening
  /-- The daemon has acknowledged it. -/
  | acked
  /-- Events may come. -/
  | streaming
  /-- The producer has stopped. -/
  | closed
  deriving DecidableEq, Repr

namespace WatchPhase

def name : WatchPhase → String
  | .opening => "opening"
  | .acked => "acked"
  | .streaming => "streaming"
  | .closed => "closed"

end WatchPhase

/-- A queue of events between a producer and a consumer. -/
structure Channel where
  taskId : String
  token : Token
  /-- How many events may be queued; at least one. -/
  capacity : Nat
  /-- The events that wait to be received, oldest first. -/
  queue : List Event := []
  /-- How many events were dropped. -/
  dropped : Nat := 0
  phase : WatchPhase := .streaming
  /-- Whether there is still a producer. -/
  hasSink : Bool := true
  /-- Whether there is still a consumer. -/
  hasStream : Bool := true
  deriving DecidableEq, Repr

/-- What becomes of an event that is delivered. -/
inductive Delivery where
  | queued
  | dropped
  /-- The consumer is gone or the channel is cancelled. -/
  | refused
  /-- The event has to wait for room. -/
  | waiting
  deriving DecidableEq, Repr

/-- Whether the delivery succeeded; dropping an event is a success. -/
def Delivery.taken : Delivery → Bool
  | .queued | .dropped => true
  | .refused | .waiting => false

/-- What the consumer finds. -/
inductive Reception where
  | event (e : Event)
  /-- Nothing is queued, and more may come. -/
  | pending
  /-- Nothing is queued, and nothing can come. -/
  | closed
  deriving DecidableEq, Repr

namespace Channel

/-- How many events may be queued when nothing else is said. -/
def standardCapacity : Nat := 32

/-- A new channel. -/
def new (taskId : String) (capacity : Nat) (token : Token) : Channel :=
  { taskId := taskId, token := token, capacity := max capacity 1 }

/-- Whether the queue has no room. -/
def isFull (ch : Channel) : Bool := ch.capacity ≤ ch.queue.length

/-- Delivers an event. -/
def deliver (ch : Channel) (tokens : Tokens) (event : Event) : Delivery × Channel :=
  if tokens.isCancelled ch.token || !ch.hasStream then (.refused, ch)
  else if !ch.isFull then (.queued, { ch with queue := ch.queue ++ [event] })
  else if event.isTerminal then (.waiting, ch)
  else (.dropped, { ch with dropped := ch.dropped + 1 })

/-- What becomes of an event while there is a consumer who has not cancelled. -/
theorem deliver_eq {ch : Channel} {tokens : Tokens} (htoken : tokens.isCancelled ch.token = false)
    (hstream : ch.hasStream = true) (event : Event) : ch.deliver tokens event =
      if ch.isFull then
        if event.isTerminal then (.waiting, ch) else (.dropped, { ch with dropped := ch.dropped + 1 })
      else (.queued, { ch with queue := ch.queue ++ [event] }) := by
  have hopen : ¬(tokens.isCancelled ch.token || !ch.hasStream) = true := by
    rw [htoken, hstream]
    decide
  rw [deliver, if_neg hopen]
  cases ch.isFull <;> rfl

/-- Receives the oldest event. -/
def receive (ch : Channel) : Reception × Channel :=
  match ch.queue with
  | event :: rest => (.event event, { ch with queue := rest })
  | [] => (if ch.hasSink then .pending else .closed, ch)

/-- The producer stops: the phase is closed. The token has to be cancelled with it. -/
def close (ch : Channel) : Channel := { ch with phase := .closed }

/-- The producer is gone. -/
def dropSink (ch : Channel) : Channel := { ch with hasSink := false }

/-- The consumer is gone. The token has to be cancelled with it. -/
def dropStream (ch : Channel) : Channel := { ch with hasStream := false }

end Channel

end TaskWatch
