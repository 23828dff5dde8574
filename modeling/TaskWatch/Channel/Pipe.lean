import TaskWatch.Channel.Basic

/-!
# One channel in use

A `Pipe` is a channel with its token and the deliveries made so far. Deliveries are numbered; one
that waits for room goes on as soon as there is room, in the order in which they came, and while it
waits the producer cannot go away.
-/

namespace TaskWatch

/-- A channel with the log of its deliveries. -/
structure Pipe where
  channel : Channel
  tokens : Tokens
  /-- Whether each delivery succeeded; none while it waits. -/
  outcomes : List (Option Bool) := []
  /-- The deliveries that wait for room, oldest first. -/
  waiting : List (Nat × Event) := []
  /-- Whether the producer may still deliver. -/
  holdsSink : Bool := true
  deriving DecidableEq, Repr

namespace Pipe

/-- What is done with a pipe. -/
inductive Action where
  | deliver (event : Event)
  | receive
  | cancel
  | close
  | dropSink
  | dropStream

/-- What an action gives back. -/
inductive Answer where
  /-- The number of a delivery. -/
  | delivery (number : Nat)
  | reception (r : Reception)
  | flag (b : Bool)
  | done
  /-- The end of the channel that the action needs is gone. -/
  | missing
  deriving DecidableEq, Repr

/-- A new pipe. -/
def new (taskId : String) (capacity : Nat) : Pipe :=
  let tokens : Tokens := {}
  { channel := .new taskId capacity tokens.next, tokens := tokens.issue }

def isCancelled (p : Pipe) : Bool := p.tokens.isCancelled p.channel.token

/-- The pipe with its token cancelled. -/
def cancelled (p : Pipe) : Pipe := { p with tokens := p.tokens.cancel p.channel.token }

/-- Lets waiting deliveries go on, as far as they can. -/
def advance (p : Pipe) : List (Nat × Event) → Pipe
  | [] => { p with waiting := [] }
  | (number, event) :: rest =>
    match p.channel.deliver p.tokens event with
    | (.waiting, _) => { p with waiting := (number, event) :: rest }
    | (outcome, channel) =>
      advance
        { p with channel := channel, outcomes := p.outcomes.set number (some outcome.taken) } rest

/-- Lets everything happen that can happen: waiting deliveries go on, and a producer that was let
go disappears once no delivery needs it. -/
def settle (p : Pipe) : Pipe :=
  let p := p.advance p.waiting
  if p.holdsSink || !p.waiting.isEmpty then p else { p with channel := p.channel.dropSink }

/-- The immediate effect of an action. -/
def act (p : Pipe) : Action → Answer × Pipe
  | .deliver event =>
    if p.holdsSink then
      let number := p.outcomes.length
      match p.channel.deliver p.tokens event with
      | (.waiting, _) =>
        (.delivery number,
          { p with outcomes := p.outcomes ++ [none], waiting := p.waiting ++ [(number, event)] })
      | (outcome, channel) =>
        (.delivery number,
          { p with channel := channel, outcomes := p.outcomes ++ [some outcome.taken] })
    else (.missing, p)
  | .receive =>
    if p.channel.hasStream then
      let (reception, channel) := p.channel.receive
      (.reception reception, { p with channel := channel })
    else (.missing, p)
  | .cancel => if p.channel.hasStream then (.done, p.cancelled) else (.missing, p)
  | .close =>
    if p.holdsSink then
      let p := { p.cancelled with channel := p.channel.close }
      (.flag p.isCancelled, p)
    else (.missing, p)
  | .dropSink => (.flag p.holdsSink, { p with holdsSink := false })
  | .dropStream =>
    if p.channel.hasStream then
      (.flag true, { p.cancelled with channel := p.channel.dropStream })
    else (.flag false, p)

/-- An action and all that follows from it. -/
def step (p : Pipe) (action : Action) : Answer × Pipe :=
  let (answer, p) := p.act action
  (answer, p.settle)

end Pipe

end TaskWatch
