import TaskWatch.Tracker.Session

/-!
# Publications that are cancelled while they wait

A publication that waits for room in the queue of a stream listens to the token of the stream as
well. When there is room and the token is cancelled by the time it goes on, it may notice either of
them first: `LocalTracker.resume` notices the cancellation, and `LocalTracker.land` the room. The
*turns* of a tracker are its steps, with either choice.
-/

namespace TaskWatch

/-- Goes on with a publication whose event lands in the queue that it has waited for, if there is
room by now. -/
def Broker.land (b : Broker) (p : Publication) : (Publication ⊕ Nat) × Broker :=
  match p.pending with
  | [] => b.resume p
  | i :: rest =>
    match b.stream? i with
    | none => b.resume p
    | some ch =>
      if ch.hasStream && !ch.isFull then
        let b := (b.setStream i { ch with queue := ch.queue ++ [p.event] }).closeStream i
        b.advance { p with delivered := p.delivered + 1 } rest
      else b.resume p

namespace LocalTracker

/-- What can happen in one piece, whatever a publication notices first. -/
inductive Turn where
  | step (step : Step)
  /-- Goes on with a publication that notices the room first. -/
  | land (publication : Nat)

/-- Goes on with a publication that notices the room first. -/
def land (t : LocalTracker) (i : Nat) : LocalTracker :=
  match t.publications[i]? with
  | some (.inl p) =>
    let (state, b) := t.tracker.source.land p
    { t.withBroker b with publications := t.publications.set i state }
  | _ => t

/-- The effect of a turn. -/
def turn (t : LocalTracker) : Turn → LocalTracker
  | .step step => t.step step
  | .land i => t.land i

/-- The effect of a list of turns. -/
def turns (t : LocalTracker) (turns : List Turn) : LocalTracker := turns.foldl turn t

end LocalTracker

end TaskWatch
