import TaskWatch.Channel.Pipe

/-!
# One producer and one consumer

A producer hands one event after the other to a pipe, each delivery after the one before it has
returned; a consumer receives; and whoever holds the token cancels, at any moment. An `Exchange` is
such a pipe with the events handed to it and the events received so far. Its moves are finer than
the steps of a pipe: a delivery that waits for room goes on at a move of its own (`Move.retry`), so
anything may happen between the room and the delivery; and one that finds room after a cancellation
may still take it (`Move.squeeze`).

* `Exchange.step_act_retry`: a step of the pipe is two moves of the exchange;
* `Exchange.lawful_run`: what holds after every run, and of every further move.
-/

namespace TaskWatch

/-! ## Deliveries -/

namespace Channel

/-- What becomes of an event and of the channel when the event is delivered. -/
inductive Delivers (ch : Channel) (tokens : Tokens) (event : Event) : Delivery → Channel → Prop
  | refused : tokens.isCancelled ch.token = true ∨ ch.hasStream = false →
    ch.Delivers tokens event .refused ch
  | queued : ch.queue.length < ch.capacity →
    ch.Delivers tokens event .queued { ch with queue := ch.queue ++ [event] }
  | waiting : ch.capacity ≤ ch.queue.length → event.isTerminal = true →
    ch.Delivers tokens event .waiting ch
  | dropped : ch.capacity ≤ ch.queue.length → event.isTerminal = false →
    ch.Delivers tokens event .dropped { ch with dropped := ch.dropped + 1 }

theorem delivers (ch : Channel) (tokens : Tokens) (event : Event) :
    ch.Delivers tokens event (ch.deliver tokens event).1 (ch.deliver tokens event).2 := by
  cases hcancelled : tokens.isCancelled ch.token with
  | true =>
    rw [deliver, hcancelled]
    exact .refused (.inl hcancelled)
  | false =>
    cases hstream : ch.hasStream with
    | false =>
      rw [deliver, hcancelled, hstream]
      exact .refused (.inr hstream)
    | true =>
      rw [deliver_eq hcancelled hstream]
      by_cases hfull : ch.capacity ≤ ch.queue.length
      · rw [isFull, decide_eq_true hfull, if_pos rfl]
        cases hterminal : event.isTerminal with
        | true => exact .waiting hfull hterminal
        | false => exact .dropped hfull hterminal
      · rw [isFull, decide_eq_false hfull, if_neg Bool.false_ne_true]
        exact .queued (Nat.not_le.1 hfull)

variable {ch ch' : Channel} {tokens : Tokens} {event : Event} {fate : Delivery}

/-- Only a terminal event waits. -/
theorem Delivers.terminal_of_waiting (h : ch.Delivers tokens event fate ch')
    (hfate : fate = .waiting) : event.isTerminal = true := by
  cases h with
  | waiting _ hterminal => exact hterminal
  | _ => cases hfate

theorem Delivers.token_eq (h : ch.Delivers tokens event fate ch') : ch'.token = ch.token := by
  cases h <;> rfl

end Channel

namespace Pipe

/-- Whether the producer may deliver: it is there, and its last delivery has returned. -/
def isIdle (p : Pipe) : Bool := p.holdsSink && p.waiting.isEmpty

/-- Whether there is a consumer who has not cancelled. -/
def isOpen (p : Pipe) : Bool := p.channel.hasStream && !p.isCancelled

variable {p : Pipe}

theorem isIdle_iff : p.isIdle = true ↔ p.holdsSink = true ∧ p.waiting = [] := by
  rw [isIdle, Bool.and_eq_true, List.isEmpty_iff]

theorem isOpen_iff : p.isOpen = true ↔
    p.tokens.isCancelled p.channel.token = false ∧ p.channel.hasStream = true := by
  rw [isOpen, isCancelled, Bool.and_eq_true, Bool.not_eq_true', and_comm]

theorem isOpen_of_cancelled (h : p.isCancelled = true) : p.isOpen = false := by
  rw [isOpen, h, Bool.not_true, Bool.and_false]

theorem isCancelled_cancelled (p : Pipe) : p.cancelled.isCancelled = true := by
  rw [isCancelled, cancelled, Tokens.isCancelled_cancel, beq_self_eq_true, Bool.true_or]

/-- The same pipe, but for its ends and its token; and what is shut stays shut. -/
structure Quiet (p q : Pipe) : Prop where
  queue : q.channel.queue = p.channel.queue
  capacity : q.channel.capacity = p.channel.capacity
  dropped : q.channel.dropped = p.channel.dropped
  outcomes : q.outcomes = p.outcomes
  waiting : q.waiting = p.waiting
  opens : q.isOpen = true → p.isOpen = true
  cancelled : p.isCancelled = true → q.isCancelled = true

theorem Quiet.refl (p : Pipe) : p.Quiet p := ⟨rfl, rfl, rfl, rfl, rfl, id, id⟩

theorem Quiet.of_cancelled {q : Pipe} (hqueue : q.channel.queue = p.channel.queue)
    (hcapacity : q.channel.capacity = p.channel.capacity)
    (hdropped : q.channel.dropped = p.channel.dropped) (houtcomes : q.outcomes = p.outcomes)
    (hwaiting : q.waiting = p.waiting) (hcancelled : q.isCancelled = true) : p.Quiet q := by
  have hshut := isOpen_of_cancelled hcancelled
  exact ⟨hqueue, hcapacity, hdropped, houtcomes, hwaiting,
    fun hopen => absurd (hopen.symm.trans hshut) (by decide), fun _ => hcancelled⟩

theorem quiet_cancelled (p : Pipe) : p.Quiet p.cancelled :=
  .of_cancelled rfl rfl rfl rfl rfl p.isCancelled_cancelled

theorem quiet_cancel (p : Pipe) : p.Quiet (p.act .cancel).2 := by
  rw [act]
  split
  · exact p.quiet_cancelled
  · exact .refl p

theorem quiet_close (p : Pipe) : p.Quiet (p.act .close).2 := by
  rw [act]
  split
  · exact .of_cancelled rfl rfl rfl rfl rfl p.isCancelled_cancelled
  · exact .refl p

theorem quiet_dropStream (p : Pipe) : p.Quiet (p.act .dropStream).2 := by
  rw [act]
  split
  · exact .of_cancelled rfl rfl rfl rfl rfl p.isCancelled_cancelled
  · exact .refl p

/-- Settling is the trial of what waits, and then nothing but the sink can go. -/
theorem quiet_settle (p : Pipe) : (p.advance p.waiting).Quiet p.settle := by
  rw [settle]
  split
  · exact .refl _
  · exact ⟨rfl, rfl, rfl, rfl, rfl, id, id⟩

/-! ### What deliveries do to a pipe -/

theorem act_deliver_waiting (hsink : p.holdsSink = true) {event : Event}
    (h : (p.channel.deliver p.tokens event).1 = .waiting) : (p.act (.deliver event)).2 =
      { p with
        outcomes := p.outcomes ++ [none]
        waiting := p.waiting ++ [(p.outcomes.length, event)] } := by
  rw [act, if_pos hsink]
  cases hd : p.channel.deliver p.tokens event with
  | mk fate channel =>
    rw [hd] at h
    obtain rfl : fate = .waiting := h
    rfl

theorem act_deliver_returned (hsink : p.holdsSink = true) {event : Event}
    (h : (p.channel.deliver p.tokens event).1 ≠ .waiting) : (p.act (.deliver event)).2 =
      { p with
        channel := (p.channel.deliver p.tokens event).2
        outcomes := p.outcomes ++ [some (p.channel.deliver p.tokens event).1.taken] } := by
  rw [act, if_pos hsink]
  cases hd : p.channel.deliver p.tokens event with
  | mk fate channel =>
    rw [hd] at h
    cases fate with
    | waiting => exact absurd rfl h
    | _ => rfl

theorem advance_waiting {number : Nat} {event : Event} (hwaiting : p.waiting = [(number, event)])
    (h : (p.channel.deliver p.tokens event).1 = .waiting) : p.advance [(number, event)] = p := by
  rw [advance]
  cases hd : p.channel.deliver p.tokens event with
  | mk fate channel =>
    rw [hd] at h
    obtain rfl : fate = .waiting := h
    dsimp only
    rw [← hwaiting]

theorem advance_returned (number : Nat) {event : Event}
    (h : (p.channel.deliver p.tokens event).1 ≠ .waiting) : p.advance [(number, event)] =
      { p with
        channel := (p.channel.deliver p.tokens event).2
        outcomes := p.outcomes.set number (some (p.channel.deliver p.tokens event).1.taken)
        waiting := [] } := by
  rw [advance]
  cases hd : p.channel.deliver p.tokens event with
  | mk fate channel =>
    rw [hd] at h
    cases fate with
    | waiting => exact absurd rfl h
    | _ => rfl

end Pipe

/-! ## Moves -/

/-- A pipe between one producer and one consumer. -/
structure Exchange where
  pipe : Pipe
  /-- The events handed to deliveries, oldest first. -/
  delivered : List Event := []
  /-- The events received, oldest first. -/
  received : List Event := []

namespace Exchange

/-- What can happen at a moment. -/
inductive Move
  /-- The producer or the consumer acts. -/
  | act (action : Pipe.Action)
  /-- Someone else who holds the token cancels it. -/
  | cancel
  /-- The delivery that waits is tried again. -/
  | retry
  /-- The delivery that waits takes the room there is, without a look at the token. -/
  | squeeze

def new (taskId : String) (capacity : Nat) : Exchange := { pipe := .new taskId capacity }

/-- The producer hands over an event, if its last delivery has returned. -/
def deliver (x : Exchange) (event : Event) : Exchange :=
  if x.pipe.isIdle then
    { x with pipe := (x.pipe.act (.deliver event)).2, delivered := x.delivered ++ [event] }
  else x

def receive (x : Exchange) : Exchange :=
  match x.pipe.act .receive with
  | (.reception (.event event), pipe) =>
    { x with pipe := pipe, received := x.received ++ [event] }
  | (_, pipe) => { x with pipe := pipe }

def squeeze (x : Exchange) : Exchange :=
  match x.pipe.waiting with
  | [(number, event)] =>
    if x.pipe.channel.hasStream && !x.pipe.channel.isFull then
      { x with pipe := { x.pipe with
        channel := { x.pipe.channel with queue := x.pipe.channel.queue ++ [event] }
        outcomes := x.pipe.outcomes.set number (some true)
        waiting := [] } }
    else x
  | _ => x

def step (x : Exchange) : Move → Exchange
  | .act (.deliver event) => x.deliver event
  | .act .receive => x.receive
  | .act action => { x with pipe := (x.pipe.act action).2 }
  | .cancel => { x with pipe := x.pipe.cancelled }
  | .retry => { x with pipe := x.pipe.settle }
  | .squeeze => x.squeeze

/-- The exchange after a row of moves. -/
def run (x : Exchange) (moves : List Move) : Exchange := moves.foldl step x

/-- The events whose deliveries have returned. -/
def returned (x : Exchange) : List Event :=
  (x.delivered.zip x.pipe.outcomes).filterMap fun (event, outcome) => outcome.map fun _ => event

/-- What a step of the pipe does, an action and the trial of the delivery that waits do. -/
theorem step_act_retry {x : Exchange} {action : Pipe.Action}
    (h : ∀ event, action = .deliver event → x.pipe.isIdle = true) :
    ((x.step (.act action)).step .retry).pipe = (x.pipe.step action).2 := by
  cases action with
  | deliver event =>
    rw [step, deliver, if_pos (h event rfl)]
    rfl
  | receive =>
    rw [step, receive]
    dsimp only [step, Pipe.step]
    split
    · next hact => rw [hact]
    · next hact => rw [hact]
  | _ => rfl

/-- What a move can do. -/
inductive Change (x : Exchange) : Move → Exchange → Prop
  /-- Nothing is delivered or received. -/
  | quiet {move : Move} {p : Pipe} : x.pipe.Quiet p → x.Change move { x with pipe := p }
  /-- A delivery begins to wait. -/
  | waits {event : Event} : x.pipe.isIdle = true → event.isTerminal = true →
    x.Change (.act (.deliver event))
      { x with
        pipe := { x.pipe with
          outcomes := x.pipe.outcomes ++ [none]
          waiting := [(x.pipe.outcomes.length, event)] }
        delivered := x.delivered ++ [event] }
  /-- A delivery returns at once. -/
  | returns {event : Event} {fate : Delivery} {channel : Channel} : x.pipe.isIdle = true →
    x.pipe.channel.Delivers x.pipe.tokens event fate channel → fate ≠ .waiting →
    x.Change (.act (.deliver event))
      { x with
        pipe := { x.pipe with
          channel := channel
          outcomes := x.pipe.outcomes ++ [some fate.taken] }
        delivered := x.delivered ++ [event] }
  /-- A delivery that waited returns. -/
  | resumes {move : Move} {number : Nat} {event : Event} {fate : Delivery} {channel : Channel}
      {p : Pipe} : x.pipe.waiting = [(number, event)] →
    x.pipe.channel.Delivers x.pipe.tokens event fate channel → fate ≠ .waiting →
    Pipe.Quiet { x.pipe with
      channel := channel
      outcomes := x.pipe.outcomes.set number (some fate.taken)
      waiting := [] } p →
    x.Change move { x with pipe := p }
  /-- The oldest event is received. -/
  | receives {event : Event} {rest : List Event} : x.pipe.channel.queue = event :: rest →
    x.Change (.act .receive)
      { x with
        pipe := { x.pipe with channel := { x.pipe.channel with queue := rest } }
        received := x.received ++ [event] }

variable {x : Exchange}

theorem deliver_change (x : Exchange) (event : Event) :
    x.Change (.act (.deliver event)) (x.deliver event) := by
  rw [deliver]
  split
  · next hidle =>
    obtain ⟨hsink, hwaiting⟩ := Pipe.isIdle_iff.1 hidle
    have hd := x.pipe.channel.delivers x.pipe.tokens event
    by_cases hfate : (x.pipe.channel.deliver x.pipe.tokens event).1 = .waiting
    · rw [Pipe.act_deliver_waiting hsink hfate, hwaiting]
      exact .waits hidle (hd.terminal_of_waiting hfate)
    · rw [Pipe.act_deliver_returned hsink hfate]
      exact .returns hidle hd hfate
  · exact .quiet (.refl _)

theorem receive_of_queue {event : Event} {rest : List Event}
    (hstream : x.pipe.channel.hasStream = true) (hqueue : x.pipe.channel.queue = event :: rest) :
    x.receive = { x with
      pipe := { x.pipe with channel := { x.pipe.channel with queue := rest } }
      received := x.received ++ [event] } := by
  rw [receive, Pipe.act, if_pos hstream, Channel.receive, hqueue]

theorem receive_change (x : Exchange) : x.Change (.act .receive) x.receive := by
  cases hstream : x.pipe.channel.hasStream with
  | false =>
    rw [receive, Pipe.act, hstream]
    exact .quiet (.refl _)
  | true =>
    cases hqueue : x.pipe.channel.queue with
    | nil =>
      rw [receive, Pipe.act, if_pos hstream, Channel.receive, hqueue]
      cases x.pipe.channel.hasSink <;> exact .quiet (.refl _)
    | cons event rest =>
      rw [receive_of_queue hstream hqueue]
      exact .receives hqueue

/-- A trial of one delivery that waits. -/
theorem retry_change {number : Nat} {event : Event} (hwaiting : x.pipe.waiting = [(number, event)]) :
    x.Change .retry { x with pipe := x.pipe.settle } := by
  have hsettle := x.pipe.quiet_settle
  rw [hwaiting] at hsettle
  by_cases hfate : (x.pipe.channel.deliver x.pipe.tokens event).1 = .waiting
  · rw [Pipe.advance_waiting hwaiting hfate] at hsettle
    exact .quiet hsettle
  · rw [Pipe.advance_returned number hfate] at hsettle
    exact .resumes hwaiting (x.pipe.channel.delivers x.pipe.tokens event) hfate hsettle

theorem squeeze_change (x : Exchange) : x.Change .squeeze x.squeeze := by
  rw [squeeze]
  split
  · next number event hwaiting =>
    split
    · next hroom =>
      rw [Bool.and_eq_true, Bool.not_eq_true', Channel.isFull, decide_eq_false_iff_not] at hroom
      exact .resumes hwaiting (.queued (Nat.not_le.1 hroom.2)) Delivery.noConfusion (.refl _)
    · exact .quiet (.refl _)
  · exact .quiet (.refl _)

theorem step_change (move : Move)
    (h : x.pipe.waiting = [] ∨ ∃ number event, x.pipe.waiting = [(number, event)]) :
    x.Change move (x.step move) := by
  cases move with
  | act action =>
    cases action with
    | deliver event => exact x.deliver_change event
    | receive => exact x.receive_change
    | cancel => exact .quiet x.pipe.quiet_cancel
    | close => exact .quiet x.pipe.quiet_close
    | dropSink => exact .quiet ⟨rfl, rfl, rfl, rfl, rfl, id, id⟩
    | dropStream => exact .quiet x.pipe.quiet_dropStream
  | cancel => exact .quiet x.pipe.quiet_cancelled
  | retry =>
    rcases h with hwaiting | ⟨number, event, hwaiting⟩
    · have hsettle := x.pipe.quiet_settle
      rw [hwaiting, Pipe.advance, ← hwaiting] at hsettle
      exact .quiet hsettle
    · exact retry_change hwaiting
  | squeeze => exact x.squeeze_change

/-! ## What every move keeps -/

/-- What holds of an exchange, where `returned` are the events whose deliveries have returned and
`results` is what these deliveries have returned. -/
structure Kept (bound : Nat) (x : Exchange) (returned : List Event) (results : List Bool) :
    Prop where
  capacity : x.pipe.channel.capacity = bound
  room : x.pipe.channel.queue.length ≤ bound
  lengths : results.length = returned.length
  delivered : x.delivered = returned ++ x.pipe.waiting.map (·.2)
  outcomes : x.pipe.outcomes = results.map some ++ x.pipe.waiting.map fun _ => none
  waiting : x.pipe.waiting = [] ∨
    ∃ event, x.pipe.waiting = [(returned.length, event)] ∧ event.isTerminal = true
  flow : (x.received ++ x.pipe.channel.queue).Sublist returned
  count : results.count true =
    x.received.length + x.pipe.channel.queue.length + x.pipe.channel.dropped
  terminals : x.pipe.isOpen = true →
    (x.received ++ x.pipe.channel.queue).filter (·.isTerminal) = returned.filter (·.isTerminal)

variable {bound : Nat} {returned : List Event} {results : List Bool}

theorem Kept.new (taskId : String) (capacity : Nat) :
    Kept (max capacity 1) (Exchange.new taskId capacity) [] [] :=
  ⟨rfl, Nat.zero_le _, rfl, rfl, rfl, .inl rfl, List.Sublist.refl [], rfl, fun _ => rfl⟩

/-- The exchange once a delivery has returned. -/
def returning (x : Exchange) (returned : List Event) (results : List Bool) (channel : Channel) :
    Exchange :=
  { x with
    pipe := { x.pipe with channel := channel, outcomes := results.map some, waiting := [] }
    delivered := returned }

/-- A delivery that returns keeps all that its effect on the queue and the counts keeps. -/
theorem Kept.returning (h : x.Kept bound returned results) (event : Event) (result : Bool)
    {channel : Channel} (hcapacity : channel.capacity = x.pipe.channel.capacity)
    (hroom : channel.queue.length ≤ bound)
    (hflow : (x.received ++ channel.queue).Sublist (returned ++ [event]))
    (hcount : results.count true + [result].count true =
      x.received.length + channel.queue.length + channel.dropped)
    (hterminals : (x.pipe.tokens.isCancelled channel.token = false ∧ channel.hasStream = true) →
      (x.received ++ channel.queue).filter (·.isTerminal) =
        returned.filter (·.isTerminal) ++ [event].filter (·.isTerminal)) :
    (x.returning (returned ++ [event]) (results ++ [result]) channel).Kept bound
      (returned ++ [event]) (results ++ [result]) := by
  refine ⟨hcapacity.trans h.capacity, hroom, ?_, (List.append_nil _).symm, (List.append_nil _).symm,
    .inl rfl, hflow, ?_, fun hopen => ?_⟩
  · rw [List.length_append, List.length_append, h.lengths]
    rfl
  · rw [List.count_append]
    exact hcount
  · exact (hterminals (Pipe.isOpen_iff.1 hopen)).trans (List.filter_append ..).symm

/-- A delivery that finds room keeps the rest, also one that takes it after a cancellation. -/
theorem Kept.queued (h : x.Kept bound returned results) (event : Event)
    (hroom : x.pipe.channel.queue.length < x.pipe.channel.capacity) :
    (x.returning (returned ++ [event]) (results ++ [true])
      { x.pipe.channel with queue := x.pipe.channel.queue ++ [event] }).Kept bound
      (returned ++ [event]) (results ++ [true]) := by
  have hcapacity := h.capacity
  have hcount := h.count
  refine h.returning event true rfl ?_ ?_ ?_ fun hopen => ?_
  · rw [List.length_append, List.length_singleton]
    omega
  · rw [← List.append_assoc]
    exact h.flow.append (List.Sublist.refl [event])
  · rw [List.count_singleton_self, List.length_append, List.length_singleton]
    dsimp only
    omega
  · rw [← List.append_assoc, List.filter_append, h.terminals (Pipe.isOpen_iff.2 hopen)]

/-- A delivery that does not wait returns, and keeps the rest. -/
theorem Kept.delivers (h : x.Kept bound returned results) {event : Event} {fate : Delivery}
    {channel : Channel} (hd : x.pipe.channel.Delivers x.pipe.tokens event fate channel)
    (hfate : fate ≠ .waiting) :
    (x.returning (returned ++ [event]) (results ++ [fate.taken]) channel).Kept bound
      (returned ++ [event]) (results ++ [fate.taken]) := by
  have hcount := h.count
  have hflow := h.flow.trans (List.sublist_append_left returned [event])
  cases hd with
  | queued hroom => exact h.queued event hroom
  | waiting => exact absurd rfl hfate
  | refused hshut =>
    refine h.returning event false rfl h.room hflow hcount fun hopen => ?_
    rcases hshut with hshut | hshut
    · exact absurd (hopen.1.symm.trans hshut) Bool.false_ne_true
    · exact absurd (hshut.symm.trans hopen.2) Bool.false_ne_true
  | dropped hfull hterminal =>
    refine h.returning event true rfl h.room hflow ?_ fun hopen => ?_
    · rw [List.count_singleton_self]
      dsimp only
      omega
    · -- what is dropped is not a terminal event
      rw [h.terminals (Pipe.isOpen_iff.2 hopen), List.filter_cons_of_neg
        (by rw [hterminal]; exact Bool.false_ne_true), List.filter_nil, List.append_nil]

/-- Where nothing is delivered or received, all is kept. -/
theorem Kept.quiet (h : x.Kept bound returned results) {p : Pipe} (hp : x.pipe.Quiet p) :
    Kept bound { x with pipe := p } returned results := by
  refine ⟨hp.capacity.trans h.capacity, ?_, h.lengths, ?_, ?_, ?_, ?_, ?_, fun hopen => ?_⟩
  · exact hp.queue ▸ h.room
  · exact hp.waiting ▸ h.delivered
  · rw [hp.outcomes, hp.waiting]
    exact h.outcomes
  · exact hp.waiting ▸ h.waiting
  · exact hp.queue ▸ h.flow
  · rw [hp.queue, hp.dropped]
    exact h.count
  · exact hp.queue ▸ h.terminals (hp.opens hopen)

/-- While no delivery waits, all have returned. -/
theorem Kept.idle (h : x.Kept bound returned results) (hidle : x.pipe.waiting = []) :
    x.delivered = returned ∧ x.pipe.outcomes = results.map some := by
  have hdelivered := h.delivered
  have houtcomes := h.outcomes
  rw [hidle, List.map_nil, List.append_nil] at hdelivered houtcomes
  exact ⟨hdelivered, houtcomes⟩

/-- The delivery that waits is the last one. -/
theorem Kept.held (h : x.Kept bound returned results) {number : Nat} {event : Event}
    (hwaiting : x.pipe.waiting = [(number, event)]) :
    event.isTerminal = true ∧ x.delivered = returned ++ [event] ∧
      ∀ result, x.pipe.outcomes.set number (some result) = (results ++ [result]).map some := by
  rcases h.waiting with hnil | ⟨event', hwaiting', hterminal⟩
  · rw [hnil] at hwaiting
    cases hwaiting
  · have hdelivered := h.delivered
    have houtcomes := h.outcomes
    rw [hwaiting] at hwaiting' hdelivered houtcomes
    obtain ⟨hnumber, rfl⟩ := Prod.mk.inj (List.cons.inj hwaiting').1
    refine ⟨hterminal, hdelivered, fun result => ?_⟩
    have hlength : number = (results.map some).length := by
      rw [hnumber, List.length_map, h.lengths]
    rw [houtcomes, hlength, List.set_append_right _ _ (Nat.le_refl _), Nat.sub_self,
      List.map_append]
    rfl

theorem Kept.receives (h : x.Kept bound returned results) {event : Event} {rest : List Event}
    (hqueue : x.pipe.channel.queue = event :: rest) :
    Kept bound { x with
      pipe := { x.pipe with channel := { x.pipe.channel with queue := rest } }
      received := x.received ++ [event] } returned results := by
  have hroom := h.room
  have hcount := h.count
  have hmoved : x.received ++ event :: rest = (x.received ++ [event]) ++ rest := by
    rw [List.append_assoc, List.singleton_append]
  rw [hqueue, List.length_cons] at hroom hcount
  refine ⟨h.capacity, Nat.le_of_succ_le hroom, h.lengths, h.delivered, h.outcomes, h.waiting, ?_, ?_,
    fun hopen => ?_⟩
  · rw [← hmoved, ← hqueue]
    exact h.flow
  · rw [List.length_append, List.length_singleton]
    dsimp only
    omega
  · rw [← hmoved, ← hqueue]
    exact h.terminals hopen

/-- Every move keeps what holds. -/
theorem Kept.change (h : x.Kept bound returned results) {move : Move} {y : Exchange}
    (hchange : x.Change move y) : ∃ returned' results', y.Kept bound returned' results' := by
  cases hchange with
  | quiet hp => exact ⟨_, _, h.quiet hp⟩
  | @waits event hidle hterminal =>
    obtain ⟨hdelivered, houtcomes⟩ := h.idle (Pipe.isIdle_iff.1 hidle).2
    rw [hdelivered, houtcomes]
    refine ⟨returned, results, h.capacity, h.room, h.lengths, rfl, rfl, .inr ⟨event, ?_, hterminal⟩,
      h.flow, h.count, h.terminals⟩
    rw [List.length_map, h.lengths]
  | returns hidle hd hfate =>
    have hwaiting := (Pipe.isIdle_iff.1 hidle).2
    obtain ⟨hdelivered, houtcomes⟩ := h.idle hwaiting
    have hreturned := h.delivers hd hfate
    rw [Exchange.returning, List.map_append, ← houtcomes, ← hwaiting] at hreturned
    rw [hdelivered]
    exact ⟨_, _, hreturned⟩
  | resumes hwaiting hd hfate hp =>
    obtain ⟨-, hdelivered, houtcomes⟩ := h.held hwaiting
    rw [houtcomes] at hp
    have hreturned := (h.delivers hd hfate).quiet hp
    rw [hdelivered]
    exact ⟨_, _, hreturned⟩
  | receives hqueue => exact ⟨_, _, h.receives hqueue⟩

theorem Kept.step_change (h : x.Kept bound returned results) (move : Move) :
    x.Change move (x.step move) :=
  Exchange.step_change move (h.waiting.imp_right fun ⟨event, hwaiting, _⟩ => ⟨_, event, hwaiting⟩)

theorem run_kept (taskId : String) (capacity : Nat) (moves : List Move) :
    ∃ returned results,
      ((Exchange.new taskId capacity).run moves).Kept (max capacity 1) returned results := by
  suffices h : ∀ {x : Exchange} {returned results}, x.Kept (max capacity 1) returned results →
      ∃ returned results, (x.run moves).Kept (max capacity 1) returned results from
    h (Kept.new taskId capacity)
  induction moves with
  | nil => exact fun h => ⟨_, _, h⟩
  | cons move moves ih =>
    intro x returned results h
    obtain ⟨returned', results', h'⟩ := h.change (h.step_change move)
    exact ih h'

/-! ## The law -/

/-- What an exchange through a queue of bounded length obeys, at a moment and at the next move. -/
structure Lawful (capacity : Nat) (x : Exchange) : Prop where
  /-- What was received, and then what is queued, are some of the events delivered, in order. -/
  flow : (x.received ++ x.pipe.channel.queue).Sublist x.delivered
  room : x.pipe.channel.queue.length ≤ max capacity 1
  /-- A delivery that succeeds is received, queued or counted as dropped. -/
  count : x.pipe.outcomes.count (some true) =
    x.received.length + x.pipe.channel.queue.length + x.pipe.channel.dropped
  /-- Until a cancellation, the terminal events received or queued are those whose deliveries have
  returned. -/
  terminals : x.pipe.isOpen = true →
    (x.received ++ x.pipe.channel.queue).filter (·.isTerminal) =
      x.returned.filter (·.isTerminal)
  /-- An open exchange that has room takes the event that is handed to it: it is queued, and its
  delivery succeeds. -/
  takes : ∀ event, x.pipe.isOpen = true → x.pipe.isIdle = true →
    x.pipe.channel.queue.length < max capacity 1 →
    (x.step (.act (.deliver event))).pipe = { x.pipe with
      channel := { x.pipe.channel with queue := x.pipe.channel.queue ++ [event] }
      outcomes := x.pipe.outcomes ++ [some true] }
  /-- In one that has no room a terminal event waits; any other is dropped and counted, and its
  delivery succeeds. -/
  overflows : ∀ event, x.pipe.isOpen = true → x.pipe.isIdle = true →
    x.pipe.channel.queue.length = max capacity 1 →
    (x.step (.act (.deliver event))).pipe =
      if event.isTerminal then { x.pipe with
        outcomes := x.pipe.outcomes ++ [none]
        waiting := [(x.pipe.outcomes.length, event)] }
      else { x.pipe with
        channel := { x.pipe.channel with dropped := x.pipe.channel.dropped + 1 }
        outcomes := x.pipe.outcomes ++ [some true] }
  /-- A delivery that waits in an open exchange goes on once there is room: its event is queued, and
  it succeeds. -/
  admits : ∀ {number event}, x.pipe.isOpen = true → x.pipe.waiting = [(number, event)] →
    x.pipe.channel.queue.length < max capacity 1 →
    (x.step .retry).pipe.channel.queue = x.pipe.channel.queue ++ [event] ∧
      (x.step .retry).pipe.outcomes = x.pipe.outcomes.set number (some true) ∧
      (x.step .retry).pipe.waiting = []
  /-- An event is dropped only when it is not a terminal one and the queue is full. -/
  drops : ∀ move, (x.step move).pipe.channel.dropped ≠ x.pipe.channel.dropped →
    ∃ event, move = .act (.deliver event) ∧ event.isTerminal = false ∧
      x.pipe.channel.queue.length = max capacity 1
  /-- Nothing that was received or is queued is lost or overtaken. -/
  keeps : ∀ move, x.received ++ x.pipe.channel.queue <+:
    (x.step move).received ++ (x.step move).pipe.channel.queue
  /-- What is queued can be received, the oldest first. -/
  receives : ∀ {event rest}, x.pipe.channel.hasStream = true →
    x.pipe.channel.queue = event :: rest →
      (x.step (.act .receive)).received = x.received ++ [event] ∧
        (x.step (.act .receive)).pipe.channel.queue = rest
  /-- A token that is cancelled stays so. -/
  cancels : ∀ move, x.pipe.isCancelled = true ∨ move = .cancel →
    (x.step move).pipe.isCancelled = true
  /-- A delivery after a cancellation fails, and changes nothing else. -/
  refuses : ∀ event, x.pipe.isCancelled = true → x.pipe.isIdle = true →
    (x.step (.act (.deliver event))).pipe =
      { x.pipe with outcomes := x.pipe.outcomes ++ [some false] }
  /-- A delivery that waits at a cancellation adds its event and succeeds, or fails and adds
  nothing. -/
  resolves : ∀ {number event}, x.pipe.isCancelled = true → x.pipe.waiting = [(number, event)] →
    ∀ move, let p := (x.step move).pipe
      (p.waiting = x.pipe.waiting ∧ p.outcomes = x.pipe.outcomes) ∨
      (p.waiting = [] ∧ p.channel.queue = x.pipe.channel.queue ++ [event] ∧
        p.outcomes = x.pipe.outcomes.set number (some true)) ∨
      (p.waiting = [] ∧ p.channel.queue = x.pipe.channel.queue ∧
        p.outcomes = x.pipe.outcomes.set number (some false))

/-- Deliveries that have returned are those with an outcome. -/
theorem Kept.returned_eq (h : x.Kept bound returned results) : x.returned = returned := by
  have hpairs : ∀ {events : List Event} {results : List Bool}, results.length = events.length →
      (events.zip (results.map some)).filterMap
        (fun (event, outcome) => outcome.map fun _ => event) = events := by
    intro events
    induction events with
    | nil => exact fun _ => rfl
    | cons event events ih =>
      intro results hlength
      cases results with
      | nil => cases hlength
      | cons result results =>
        rw [List.map_cons, List.zip_cons_cons]
        exact congrArg _ (ih (Nat.succ.inj hlength))
  rw [Exchange.returned, h.delivered, h.outcomes,
    List.zip_append (by rw [List.length_map, h.lengths]), List.filterMap_append, hpairs h.lengths]
  rcases h.waiting with hwaiting | ⟨event, hwaiting, -⟩ <;> rw [hwaiting] <;>
    exact List.append_nil _

theorem Kept.count_outcomes (h : x.Kept bound returned results) :
    x.pipe.outcomes.count (some true) = results.count true := by
  have hheld : (x.pipe.waiting.map fun _ => (none : Option Bool)).count (some true) = 0 := by
    rcases h.waiting with hwaiting | ⟨event, hwaiting, -⟩ <;> rw [hwaiting] <;> rfl
  have hsome : ∀ bs : List Bool, (bs.map some).count (some true) = bs.count true := by
    intro bs
    induction bs with
    | nil => rfl
    | cons b bs ih => rw [List.map_cons, List.count_cons, List.count_cons, ih]; cases b <;> rfl
  rw [h.outcomes, List.count_append, hheld, hsome, Nat.add_zero]

/-- What was delivered before is never lost or overtaken. -/
theorem Change.keeps {move : Move} {y : Exchange} (h : x.Change move y) :
    x.received ++ x.pipe.channel.queue <+: y.received ++ y.pipe.channel.queue := by
  have htaken {event : Event} {fate : Delivery} {channel : Channel}
      (hd : x.pipe.channel.Delivers x.pipe.tokens event fate channel) :
      x.received ++ x.pipe.channel.queue <+: x.received ++ channel.queue := by
    cases hd with
    | queued => exact (List.prefix_append_right_inj _).2 (List.prefix_append _ _)
    | _ => exact List.prefix_rfl
  cases h with
  | quiet hp => exact hp.queue ▸ List.prefix_rfl
  | waits => exact List.prefix_rfl
  | returns _ hd => exact htaken hd
  | resumes _ hd _ hp => exact hp.queue ▸ htaken hd
  | receives hqueue =>
    rw [hqueue]
    exact ⟨[], by rw [List.append_nil, List.append_assoc, List.singleton_append]⟩

/-- A token stays cancelled. -/
theorem Change.cancelled {move : Move} {y : Exchange} (h : x.Change move y)
    (hcancelled : x.pipe.isCancelled = true) : y.pipe.isCancelled = true := by
  cases h with
  | quiet hp => exact hp.cancelled hcancelled
  | waits => exact hcancelled
  | receives => exact hcancelled
  | returns _ hd =>
    rw [Pipe.isCancelled, hd.token_eq]
    exact hcancelled
  | resumes _ hd _ hp =>
    refine hp.cancelled ?_
    rw [Pipe.isCancelled, hd.token_eq]
    exact hcancelled

/-- An event is dropped at its delivery, when the queue is full. -/
theorem Kept.drops (h : x.Kept bound returned results) {move : Move} {y : Exchange}
    (hchange : x.Change move y) (hdropped : y.pipe.channel.dropped ≠ x.pipe.channel.dropped) :
    ∃ event, move = .act (.deliver event) ∧ event.isTerminal = false ∧
      x.pipe.channel.queue.length = bound := by
  have hroom := h.room
  have hcapacity := h.capacity
  cases hchange with
  | quiet hp => exact absurd hp.dropped hdropped
  | waits => exact absurd rfl hdropped
  | receives => exact absurd rfl hdropped
  | @returns event _ _ _ hd =>
    cases hd with
    | dropped hfull hterminal => exact ⟨event, rfl, hterminal, by omega⟩
    | _ => exact absurd rfl hdropped
  | resumes hwaiting hd _ hp =>
    rw [hp.dropped] at hdropped
    cases hd with
    | dropped _ hterminal =>
      -- only terminal events wait
      exact absurd ((h.held hwaiting).1.symm.trans hterminal) (by decide)
    | _ => exact absurd rfl hdropped

/-- A delivery that waits either adds its event and succeeds, or fails and adds nothing. -/
theorem Kept.resolves (h : x.Kept bound returned results) {move : Move} {y : Exchange}
    (hchange : x.Change move y) {number : Nat} {event : Event}
    (hwaiting : x.pipe.waiting = [(number, event)]) :
    (y.pipe.waiting = x.pipe.waiting ∧ y.pipe.outcomes = x.pipe.outcomes) ∨
      (y.pipe.waiting = [] ∧ y.pipe.channel.queue = x.pipe.channel.queue ++ [event] ∧
        y.pipe.outcomes = x.pipe.outcomes.set number (some true)) ∨
      (y.pipe.waiting = [] ∧ y.pipe.channel.queue = x.pipe.channel.queue ∧
        y.pipe.outcomes = x.pipe.outcomes.set number (some false)) := by
  have hbusy (hidle : x.pipe.isIdle = true) : False := by
    rw [(Pipe.isIdle_iff.1 hidle).2] at hwaiting
    cases hwaiting
  cases hchange with
  | quiet hp => exact .inl ⟨hp.waiting, hp.outcomes⟩
  | waits hidle => exact (hbusy hidle).elim
  | returns hidle => exact (hbusy hidle).elim
  | receives => exact .inl ⟨rfl, rfl⟩
  | resumes hwaiting' hd hfate hp =>
    rw [hwaiting] at hwaiting'
    obtain ⟨rfl, rfl⟩ := Prod.mk.inj (List.cons.inj hwaiting').1
    cases hd with
    | queued => exact .inr (.inl ⟨hp.waiting, hp.queue, hp.outcomes⟩)
    | refused => exact .inr (.inr ⟨hp.waiting, hp.queue, hp.outcomes⟩)
    | waiting => exact absurd rfl hfate
    | dropped _ hterminal =>
      exact absurd ((h.held hwaiting).1.symm.trans hterminal) (by decide)

/-- What becomes of an event while nobody has cancelled: whether there is room decides. -/
theorem Kept.fate_eq (h : x.Kept bound returned results) (hopen : x.pipe.isOpen = true)
    (event : Event) : x.pipe.channel.deliver x.pipe.tokens event =
      if x.pipe.channel.queue.length < bound then
        (.queued, { x.pipe.channel with queue := x.pipe.channel.queue ++ [event] })
      else if event.isTerminal then (.waiting, x.pipe.channel)
      else (.dropped, { x.pipe.channel with dropped := x.pipe.channel.dropped + 1 }) := by
  obtain ⟨huncancelled, hstream⟩ := Pipe.isOpen_iff.1 hopen
  have hfull : x.pipe.channel.isFull = decide (bound ≤ x.pipe.channel.queue.length) := by
    rw [Channel.isFull, h.capacity]
  rw [Channel.deliver_eq huncancelled hstream, hfull]
  by_cases hroom : x.pipe.channel.queue.length < bound
  · rw [decide_eq_false (Nat.not_le.2 hroom), if_neg Bool.false_ne_true, if_pos hroom]
  · rw [decide_eq_true (Nat.not_lt.1 hroom), if_pos rfl, if_neg hroom]

theorem Kept.takes (h : x.Kept bound returned results) (hopen : x.pipe.isOpen = true)
    (hidle : x.pipe.isIdle = true) (hroom : x.pipe.channel.queue.length < bound) (event : Event) :
    (x.deliver event).pipe = { x.pipe with
      channel := { x.pipe.channel with queue := x.pipe.channel.queue ++ [event] }
      outcomes := x.pipe.outcomes ++ [some true] } := by
  have hfate := h.fate_eq hopen event
  rw [if_pos hroom] at hfate
  rw [deliver, if_pos hidle, Pipe.act_deliver_returned (Pipe.isIdle_iff.1 hidle).1
    (by rw [hfate]; exact Delivery.noConfusion), hfate]
  rfl

theorem Kept.overflows (h : x.Kept bound returned results) (hopen : x.pipe.isOpen = true)
    (hidle : x.pipe.isIdle = true) (hfull : x.pipe.channel.queue.length = bound) (event : Event) :
    (x.deliver event).pipe =
      if event.isTerminal then { x.pipe with
        outcomes := x.pipe.outcomes ++ [none]
        waiting := [(x.pipe.outcomes.length, event)] }
      else { x.pipe with
        channel := { x.pipe.channel with dropped := x.pipe.channel.dropped + 1 }
        outcomes := x.pipe.outcomes ++ [some true] } := by
  obtain ⟨hsink, hwaiting⟩ := Pipe.isIdle_iff.1 hidle
  have hfate := h.fate_eq hopen event
  rw [if_neg (Nat.not_lt.2 (Nat.le_of_eq hfull.symm))] at hfate
  rw [deliver, if_pos hidle]
  cases hterminal : event.isTerminal with
  | true =>
    rw [hterminal, if_pos rfl] at hfate
    rw [if_pos rfl, Pipe.act_deliver_waiting hsink (by rw [hfate]), hwaiting]
    rfl
  | false =>
    rw [hterminal, if_neg Bool.false_ne_true] at hfate
    rw [if_neg Bool.false_ne_true, Pipe.act_deliver_returned hsink
      (by rw [hfate]; exact Delivery.noConfusion), hfate]
    rfl

theorem Kept.admits (h : x.Kept bound returned results) (hopen : x.pipe.isOpen = true)
    {number : Nat} {event : Event} (hwaiting : x.pipe.waiting = [(number, event)])
    (hroom : x.pipe.channel.queue.length < bound) :
    x.pipe.settle.channel.queue = x.pipe.channel.queue ++ [event] ∧
      x.pipe.settle.outcomes = x.pipe.outcomes.set number (some true) ∧
      x.pipe.settle.waiting = [] := by
  have hfate := h.fate_eq hopen event
  rw [if_pos hroom] at hfate
  have hsettle := x.pipe.quiet_settle
  rw [hwaiting, Pipe.advance_returned number (by rw [hfate]; exact Delivery.noConfusion),
    hfate] at hsettle
  exact ⟨hsettle.queue, hsettle.outcomes, hsettle.waiting⟩

/-- However deliveries, receptions and cancellations alternate, an exchange is lawful. -/
theorem lawful_run (taskId : String) (capacity : Nat) (moves : List Move) :
    ((Exchange.new taskId capacity).run moves).Lawful capacity := by
  obtain ⟨returned, results, h⟩ := run_kept taskId capacity moves
  have hdelivered : returned.Sublist ((Exchange.new taskId capacity).run moves).delivered :=
    h.delivered ▸ List.sublist_append_left _ _
  refine ⟨h.flow.trans hdelivered, h.room, ?_, fun hopen => ?_,
    fun event hopen hidle hroom => h.takes hopen hidle hroom event,
    fun event hopen hidle hfull => h.overflows hopen hidle hfull event,
    fun hopen hwaiting hroom => h.admits hopen hwaiting hroom, fun move hdropped => ?_,
    fun move => (h.step_change move).keeps, fun hstream hqueue => ?_,
    fun move hcancelled => ?_, fun event hcancelled hidle => ?_,
    fun _ hwaiting move => h.resolves (h.step_change move) hwaiting⟩
  · rw [h.count_outcomes]
    exact h.count
  · rw [h.returned_eq]
    exact h.terminals hopen
  · exact h.drops (h.step_change move) hdropped
  · rw [step, receive_of_queue hstream hqueue]
    exact ⟨rfl, rfl⟩
  · rcases hcancelled with hcancelled | rfl
    · exact (h.step_change move).cancelled hcancelled
    · exact Pipe.isCancelled_cancelled _
  · generalize (Exchange.new taskId capacity).run moves = x at hcancelled hidle ⊢
    have hrefused : x.pipe.channel.deliver x.pipe.tokens event = (.refused, x.pipe.channel) := by
      rw [Pipe.isCancelled] at hcancelled
      rw [Channel.deliver, hcancelled]
      rfl
    rw [step, deliver, if_pos hidle, Pipe.act_deliver_returned (Pipe.isIdle_iff.1 hidle).1
      (by rw [hrefused]; exact Delivery.noConfusion), hrefused]
    rfl

end Exchange

end TaskWatch
