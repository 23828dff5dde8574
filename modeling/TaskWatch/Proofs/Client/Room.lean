import TaskWatch.Proofs.Client.Feed

/-!
# A producer with room for everything

When the queue of a watch has room for all events that its lines carry, none is dropped and none has
to wait (`Feed.Roomy`). Then the consumer who lets the producer go on as far as it can takes all of
them at once, and the producer has stopped (`Feed.Roomy.takeAll`).
-/

namespace TaskWatch

/-- The channel of a producer that has stopped after some more events. -/
def Channel.ended (ch : Channel) (events : List Event) : Channel :=
  { ch with queue := ch.queue ++ events, phase := .closed, hasSink := false }

namespace Feed

variable {feed : Feed} {tokens : Tokens}

/-- A producer that has all lines, with room for the events in them. -/
structure Roomy (feed : Feed) (tokens : Tokens) : Prop where
  hasSink : feed.channel.hasSink = true
  hasStream : feed.channel.hasStream = true
  running : tokens.isCancelled feed.channel.token = false
  ended : feed.ended = true
  held : feed.held = none
  room : feed.channel.queue.length + (eventsOf feed.lines).length ≤ feed.channel.capacity

theorem steps_of_stopped (hsink : feed.channel.hasSink = false) (tokens : Tokens) (n : Nat) :
    steps n feed tokens = (feed, tokens) := by
  induction n with
  | zero => rfl
  | succ n ih =>
    rw [steps, step_of_stopped feed hsink]
    exact ih

namespace Roomy

/-- There is room for one more event of the lines. -/
theorem not_full (h : Roomy feed tokens) {line : Line} {rest : List Line} {event : Event}
    (hlines : feed.lines = line :: rest) (hevent : eventOf? line = some event) :
    feed.channel.isFull = false := by
  have hroom := h.room
  have hlength : 1 ≤ (eventsOf feed.lines).length := by
    rw [hlines, eventsOf_cons_of_some hevent]
    split
    · exact Nat.le_refl _
    · rw [List.length_cons]
      omega
  rw [Channel.isFull, decide_eq_false_iff_not]
  omega

/-- All events of the lines are queued, and the producer stops. -/
theorem steps (h : Roomy feed tokens) {n : Nat} (hn : feed.lines.length < n) :
    ∃ lines, Feed.steps n feed tokens =
      ({ feed with channel := feed.channel.ended (eventsOf feed.lines), lines := lines },
        tokens.cancel feed.channel.token) := by
  induction n generalizing feed tokens with
  | zero => exact absurd hn (Nat.not_lt_zero _)
  | succ n ih =>
    have hmoved := step_produces h.hasSink h.hasStream h.running h.ended
      fun event e => nomatch h.held.symm.trans e
    have hroom := h.room
    rw [Feed.steps]
    generalize feed.step tokens = moved at hmoved
    cases hmoved with
    | skip held lines none =>
      rw [lines, eventsOf_cons_of_none none] at hroom ⊢
      rw [lines, List.length_cons] at hn
      exact ih ⟨h.hasSink, h.hasStream, h.running, h.ended, h.held, hroom⟩
        (Nat.lt_of_succ_lt_succ hn)
    | @queue line rest event held lines some quiet room =>
      have hquiet : ¬event.isTerminal = true := Bool.eq_false_iff.1 quiet
      rw [lines, eventsOf_cons_of_some some, if_neg hquiet] at hroom ⊢
      rw [lines, List.length_cons] at hn
      rw [List.length_cons] at hroom
      have hlength : (feed.channel.queue ++ [event]).length + (eventsOf rest).length ≤
          feed.channel.capacity := by
        rw [List.length_append, List.length_singleton]
        omega
      have hnext : Roomy { feed with
          lines := rest
          channel := { feed.channel with queue := feed.channel.queue ++ [event] } } tokens :=
        ⟨h.hasSink, h.hasStream, h.running, h.ended, h.held, hlength⟩
      obtain ⟨later, hlater⟩ := ih hnext (Nat.lt_of_succ_lt_succ hn)
      refine ⟨later, hlater.trans ?_⟩
      unfold Channel.ended
      dsimp only
      rw [List.append_assoc, List.singleton_append]
    | drop held lines some _ full => exact absurd ((h.not_full lines some).symm.trans full) (by decide)
    | hold held lines some _ full => exact absurd ((h.not_full lines some).symm.trans full) (by decide)
    | wait held => exact nomatch h.held.symm.trans held
    | release held => exact nomatch h.held.symm.trans held
    | @finish line rest event held lines some terminal room =>
      rw [lines, eventsOf_cons_of_some some, if_pos terminal]
      refine ⟨rest, (steps_of_stopped rfl _ n).trans ?_⟩
      rw [held]
      rfl
    | close held lines =>
      have hnothing : eventsOf [] = [] := rfl
      rw [lines, hnothing]
      refine ⟨[], (steps_of_stopped rfl _ n).trans ?_⟩
      rw [held, lines, Channel.ended, List.append_nil]
      rfl

/-- All events of the lines are taken at once, and no more come. -/
theorem takeAll (h : Roomy feed tokens) (hqueue : feed.channel.queue = []) :
    ∃ stopped, feed.takeAll tokens =
      (eventsOf feed.lines, stopped, tokens.cancel feed.channel.token) ∧
      stopped.channel.hasSink = false := by
  obtain ⟨lines, hrun⟩ := h.steps (Nat.lt_succ_self feed.lines.length)
  -- what is left when the queue was taken once
  have hfirst : feed.takeQueued tokens = (eventsOf feed.lines,
      { feed with channel := { feed.channel.ended [] with queue := [] }, lines := lines },
      tokens.cancel feed.channel.token) := by
    rw [takeQueued, run, hrun]
    unfold Channel.ended
    dsimp only
    rw [hqueue, List.nil_append]
  generalize hstopped : ({ feed with
    channel := { feed.channel.ended [] with queue := [] }, lines := lines } : Feed) = stopped
    at hfirst
  have hsink : stopped.channel.hasSink = false := by
    rw [← hstopped]
    rfl
  have hempty : stopped.channel.queue = [] := by
    rw [← hstopped]
  have hsecond : stopped.takeQueued (tokens.cancel feed.channel.token) =
      ([], { stopped with channel := { stopped.channel with queue := [] } },
        tokens.cancel feed.channel.token) := by
    rw [takeQueued, run, steps_of_stopped hsink]
    dsimp only
    rw [hempty]
  refine ⟨{ stopped with channel := { stopped.channel with queue := [] } }, ?_, hsink⟩
  rw [Feed.takeAll, hfirst]
  dsimp only
  rw [hsecond]
  dsimp only
  rw [List.append_nil]

end Roomy

end Feed

end TaskWatch
