import TaskWatch.Client.Watch

/-!
# A producer and its consumer

The producer of a watch and its consumer take turns in any order (`FeedSession`). As long as no event
is dropped, what was received, what is queued and what the producer has still to deliver are the
events of the lines, up to and including the first terminal one (`FeedSession.Faithful`).

* `run_produce`, `run_receive`: the turns of a producer that goes on as far as it can, and of a
  receiver that lets it;
* `Faithful.turn`, `Faithful.run`: every turn keeps it;
* `left_run`: a producer that finds room often enough stops;
* `run_relined`: what follows the first terminal event changes nothing.
-/

namespace TaskWatch

/-- The events up to and including the first terminal one. -/
def throughTerminal : List Event → List Event
  | [] => []
  | event :: rest => if event.isTerminal then [event] else event :: throughTerminal rest

/-- The events that the lines of a watch carry. -/
def Feed.eventsOf (lines : List Line) : List Event :=
  throughTerminal (lines.filterMap Feed.eventOf?)

namespace Feed

theorem eventsOf_cons_of_none {line : Line} (h : eventOf? line = none) (rest : List Line) :
    eventsOf (line :: rest) = eventsOf rest := by
  rw [eventsOf, List.filterMap_cons_none h]
  rfl

theorem eventsOf_cons_of_some {line : Line} {event : Event} (h : eventOf? line = some event)
    (rest : List Line) : eventsOf (line :: rest) =
      if event.isTerminal then [event] else event :: eventsOf rest := by
  rw [eventsOf, List.filterMap_cons_some h]
  rfl

end Feed

/-- A watch in use. -/
structure FeedSession where
  feed : Feed
  tokens : Tokens
  /-- What the consumer has received. -/
  received : List Event := []

namespace FeedSession

/-- What happens next. -/
inductive Turn where
  /-- The producer goes on by one step. -/
  | produce
  /-- The consumer receives an event if there is one. -/
  | receive
  deriving DecidableEq

/-- One turn. -/
def turn (s : FeedSession) : Turn → FeedSession
  | .produce => { s with feed := (s.feed.step s.tokens).1, tokens := (s.feed.step s.tokens).2 }
  | .receive =>
    { s with
      feed := { s.feed with channel := s.feed.channel.receive.2 }
      received := s.received ++ match s.feed.channel.receive.1 with
        | .event e => [e]
        | _ => [] }

/-- Any turns, one after the other. -/
def run (s : FeedSession) (turns : List Turn) : FeedSession := turns.foldl turn s

/-- How often the producer finds room in its turns. -/
def rooms : FeedSession → List Turn → Nat
  | _, [] => 0
  | s, .receive :: turns => rooms (s.turn .receive) turns
  | s, .produce :: turns =>
    (if s.feed.channel.isFull then 0 else 1) + rooms (s.turn .produce) turns

/-- A turn of the consumer takes the oldest event from the queue. -/
theorem turn_receive (s : FeedSession) : s.turn .receive = { s with
    feed := { s.feed with channel := { s.feed.channel with queue := s.feed.channel.queue.tail } }
    received := s.received ++ s.feed.channel.queue.take 1 } := by
  obtain ⟨⟨ch, lines, ended, held⟩, tokens, received⟩ := s
  rw [turn, Channel.receive]
  cases h : ch.queue with
  | nil =>
    have hsame : { ch with queue := [] } = ch := by rw [← h]
    dsimp only
    rw [List.tail_nil, List.take_nil, hsame]
    cases ch.hasSink <;> rfl
  | cons e rest => rfl

/-- A producer that goes on as far as possible takes that many turns. -/
theorem run_produce (s : FeedSession) (n : Nat) : s.run (List.replicate n .produce) = { s with
    feed := (Feed.steps n s.feed s.tokens).1, tokens := (Feed.steps n s.feed s.tokens).2 } := by
  induction n generalizing s with
  | zero => rfl
  | succ n ih => exact ih (s.turn .produce)

/-- A receiver that lets the producer go on first takes its turn after that. -/
theorem run_receive (s : FeedSession) :
    s.run (List.replicate (s.feed.lines.length + 1) .produce ++ [.receive]) = { s with
      feed := (s.feed.receive s.tokens).2.1
      tokens := (s.feed.receive s.tokens).2.2
      received := s.received ++ match (s.feed.receive s.tokens).1 with
        | .event e => [e]
        | _ => [] } := by
  rw [run, List.foldl_append]
  show ((s.run (List.replicate (s.feed.lines.length + 1) .produce)).turn .receive) = _
  rw [run_produce]
  rfl

end FeedSession

/-! ## What a step of the producer does -/

namespace Feed

variable {feed : Feed} {tokens : Tokens}

/-- What a step of a producer can do, while both ends of the channel are there. -/
inductive Produces (feed : Feed) (tokens : Tokens) : Feed × Tokens → Prop where
  /-- A line without an event is passed over. -/
  | skip {line : Line} {rest : List Line} (held : feed.held = none)
      (lines : feed.lines = line :: rest) (none : eventOf? line = none) :
      Produces feed tokens ({ feed with lines := rest }, tokens)
  /-- An event is queued. -/
  | queue {line : Line} {rest : List Line} {event : Event} (held : feed.held = none)
      (lines : feed.lines = line :: rest) (some : eventOf? line = some event)
      (quiet : event.isTerminal = false) (room : feed.channel.isFull = false) :
      Produces feed tokens ({ feed with
        lines := rest
        channel := { feed.channel with queue := feed.channel.queue ++ [event] } }, tokens)
  /-- An event is dropped. -/
  | drop {line : Line} {rest : List Line} {event : Event} (held : feed.held = none)
      (lines : feed.lines = line :: rest) (some : eventOf? line = some event)
      (quiet : event.isTerminal = false) (full : feed.channel.isFull = true) :
      Produces feed tokens ({ feed with
        lines := rest
        channel := { feed.channel with dropped := feed.channel.dropped + 1 } }, tokens)
  /-- A terminal event has to wait. -/
  | hold {line : Line} {rest : List Line} {event : Event} (held : feed.held = none)
      (lines : feed.lines = line :: rest) (some : eventOf? line = some event)
      (terminal : event.isTerminal = true) (full : feed.channel.isFull = true) :
      Produces feed tokens ({ feed with lines := rest, held := event }, tokens)
  /-- It goes on waiting. -/
  | wait {event : Event} (held : feed.held = some event) (terminal : event.isTerminal = true)
      (full : feed.channel.isFull = true) :
      Produces feed tokens ({ feed with held := event }, tokens)
  /-- A terminal event is queued, and the producer stops. -/
  | finish {line : Line} {rest : List Line} {event : Event} (held : feed.held = none)
      (lines : feed.lines = line :: rest) (some : eventOf? line = some event)
      (terminal : event.isTerminal = true) (room : feed.channel.isFull = false) :
      Produces feed tokens ({ feed with
        lines := rest
        channel := { feed.channel with queue := feed.channel.queue ++ [event] } }.stop tokens)
  /-- So is one that had to wait. -/
  | release {event : Event} (held : feed.held = some event) (terminal : event.isTerminal = true)
      (room : feed.channel.isFull = false) :
      Produces feed tokens ({ feed with
        channel := { feed.channel with queue := feed.channel.queue ++ [event] } }.stop tokens)
  /-- The lines have ended. -/
  | close (held : feed.held = none) (lines : feed.lines = []) :
      Produces feed tokens (feed.stop tokens)

/-- A producer that has stopped does nothing. -/
theorem step_of_stopped (feed : Feed) (hsink : feed.channel.hasSink = false) :
    feed.step tokens = (feed, tokens) := by
  rw [step, if_pos (by rw [hsink]; decide)]

/-- A producer whose watch is cancelled stops. -/
theorem step_of_cancelled (feed : Feed) (hsink : feed.channel.hasSink = true)
    (htoken : tokens.isCancelled feed.channel.token = true) :
    feed.step tokens = feed.stop tokens := by
  rw [step, if_neg (by rw [hsink]; decide), if_pos htoken]

/-- Any other producer goes on with what is held, or with the next line. -/
theorem step_of_running (feed : Feed) (hsink : feed.channel.hasSink = true)
    (htoken : tokens.isCancelled feed.channel.token = false) :
    feed.step tokens = match feed.held, feed.lines with
      | some event, _ => feed.deliver tokens event
      | none, [] => if feed.ended then feed.stop tokens else (feed, tokens)
      | none, line :: rest =>
        match eventOf? line with
        | some event => { feed with lines := rest }.deliver tokens event
        | none => ({ feed with lines := rest }, tokens) := by
  unfold step
  exact (if_neg (by rw [hsink]; decide)).trans (if_neg (by rw [htoken]; decide))

/-- What becomes of an event that is delivered while both ends are there. -/
theorem deliver_eq (feed : Feed) (hstream : feed.channel.hasStream = true)
    (htoken : tokens.isCancelled feed.channel.token = false) (event : Event) :
    feed.deliver tokens event =
      if feed.channel.isFull then
        if event.isTerminal then ({ feed with held := some event }, tokens)
        else ({ feed with channel := { feed.channel with dropped := feed.channel.dropped + 1 } },
          tokens)
      else if event.isTerminal then
        { feed with
          channel := { feed.channel with queue := feed.channel.queue ++ [event] } }.stop tokens
      else ({ feed with
          channel := { feed.channel with queue := feed.channel.queue ++ [event] } }, tokens) := by
  rw [deliver, Channel.deliver_eq htoken hstream]
  cases hfull : feed.channel.isFull with
  | true => cases event.isTerminal <;> rfl
  | false => cases event.isTerminal <;> rfl

/-- A step of a producer whose daemon has closed does nothing else. -/
theorem step_produces (hsink : feed.channel.hasSink = true)
    (hstream : feed.channel.hasStream = true)
    (htoken : tokens.isCancelled feed.channel.token = false) (hended : feed.ended = true)
    (hheld : ∀ event, feed.held = some event → event.isTerminal = true) :
    Produces feed tokens (feed.step tokens) := by
  rw [step_of_running feed hsink htoken]
  obtain ⟨ch, lines, ended, held⟩ := feed
  cases held with
  | some event =>
    have terminal := hheld event rfl
    dsimp only
    rw [deliver_eq _ hstream htoken, terminal]
    cases full : ch.isFull with
    | true => exact .wait rfl terminal full
    | false => exact .release rfl terminal full
  | none =>
    cases lines with
    | nil =>
      dsimp only
      rw [if_pos hended]
      exact .close rfl rfl
    | cons line rest =>
      dsimp only
      cases carried : eventOf? line with
      | none => exact .skip rfl rfl carried
      | some event =>
        have delivered := deliver_eq ⟨ch, rest, ended, none⟩ hstream htoken event
        dsimp only at delivered ⊢
        rw [delivered]
        cases terminal : event.isTerminal <;> cases full : ch.isFull
        · exact .queue rfl rfl carried terminal full
        · exact .drop rfl rfl carried terminal full
        · exact .finish rfl rfl carried terminal full
        · exact .hold rfl rfl carried terminal full

/-! ## What is still to come -/

/-- What the producer has still to deliver. -/
def coming (feed : Feed) : List Event :=
  if feed.channel.hasSink then
    match feed.held with
    | some event => [event]
    | none => eventsOf feed.lines
  else []

theorem coming_of_held {event : Event} (hsink : feed.channel.hasSink = true)
    (held : feed.held = some event) : feed.coming = [event] := by
  rw [coming, if_pos hsink, held]

theorem coming_of_lines (hsink : feed.channel.hasSink = true) (held : feed.held = none) :
    feed.coming = eventsOf feed.lines := by
  rw [coming, if_pos hsink, held]

theorem coming_of_stopped (hsink : feed.channel.hasSink = false) : feed.coming = [] := by
  rw [coming, hsink]
  rfl

end Feed

namespace FeedSession

/-- A session in which a daemon that has closed has sent some events. -/
structure Faithful (token : Token) (events : List Event) (s : FeedSession) : Prop where
  owner : s.feed.channel.token = token
  hasStream : s.feed.channel.hasStream = true
  ended : s.feed.ended = true
  held : ∀ event, s.feed.held = some event → event.isTerminal = true
  running : s.feed.channel.hasSink = true → s.tokens.isCancelled token = false
  stopped : s.feed.channel.hasSink = false →
    s.feed.channel.phase = .closed ∧ s.tokens.isCancelled token = true
  /-- No event is lost but those that are dropped. -/
  events : s.feed.channel.dropped = 0 →
    s.received ++ (s.feed.channel.queue ++ s.feed.coming) = events

namespace Faithful

variable {token : Token} {events : List Event} {s : FeedSession}

/-- The producer stops. -/
theorem stop (h : Faithful token events s) {feed : Feed}
    (howner : feed.channel.token = s.feed.channel.token)
    (hstream : feed.channel.hasStream = true) (hended : feed.ended = true)
    (hevents : feed.channel.dropped = 0 → s.received ++ feed.channel.queue = events) :
    Faithful token events
      { s with feed := (feed.stop s.tokens).1, tokens := (feed.stop s.tokens).2 } where
  owner := howner.trans h.owner
  hasStream := hstream
  ended := hended
  held _ e := by cases e
  running e := by cases e
  stopped _ := by
    refine ⟨rfl, ?_⟩
    show (s.tokens.cancel feed.channel.token).isCancelled token = true
    rw [Tokens.isCancelled_cancel, howner, h.owner, beq_self_eq_true, Bool.true_or]
  events hdropped := by
    have hnone : (feed.stop s.tokens).1.coming = [] := Feed.coming_of_stopped rfl
    rw [hnone, List.append_nil]
    exact hevents hdropped

/-- The producer goes on. -/
theorem goOn (h : Faithful token events s) (hsink : s.feed.channel.hasSink = true) {feed : Feed}
    (howner : feed.channel.token = s.feed.channel.token) (hsink' : feed.channel.hasSink = true)
    (hstream : feed.channel.hasStream = true) (hended : feed.ended = true)
    (hheld : ∀ event, feed.held = some event → event.isTerminal = true)
    (hevents : feed.channel.dropped = 0 →
      s.received ++ (feed.channel.queue ++ feed.coming) = events) :
    Faithful token events { s with feed := feed } where
  owner := howner.trans h.owner
  hasStream := hstream
  ended := hended
  held := hheld
  running _ := h.running hsink
  stopped e := absurd (hsink'.symm.trans e) (by decide)
  events := hevents

/-- A turn of the producer. -/
theorem produce (h : Faithful token events s) : Faithful token events (s.turn .produce) := by
  rw [turn]
  cases hsink : s.feed.channel.hasSink with
  | false =>
    rw [Feed.step_of_stopped s.feed hsink]
    exact h
  | true =>
    have hmoved := Feed.step_produces hsink h.hasStream (h.owner ▸ h.running hsink) h.ended h.held
    have hevents := h.events
    generalize s.feed.step s.tokens = r at hmoved
    cases hmoved with
    | @skip line rest held lines none =>
      have later : Feed.coming { s.feed with lines := rest } = Feed.eventsOf rest :=
        Feed.coming_of_lines hsink held
      refine h.goOn hsink rfl hsink h.hasStream h.ended h.held fun e => ?_
      rw [Feed.coming_of_lines hsink held, lines, Feed.eventsOf_cons_of_none none] at hevents
      rw [later]
      exact hevents e
    | @queue line rest event held lines some quiet room =>
      have later : Feed.coming { s.feed with lines := rest, channel := { s.feed.channel with
          queue := s.feed.channel.queue ++ [event] } } = Feed.eventsOf rest :=
        Feed.coming_of_lines hsink held
      refine h.goOn hsink rfl hsink h.hasStream h.ended h.held fun e => ?_
      rw [Feed.coming_of_lines hsink held, lines, Feed.eventsOf_cons_of_some some,
        if_neg (by rw [quiet]; decide)] at hevents
      rw [later, List.append_assoc]
      exact hevents e
    | drop held lines some quiet full =>
      exact h.goOn hsink rfl hsink h.hasStream h.ended h.held fun e => by cases e
    | @hold line rest event held lines some terminal full =>
      have later : Feed.coming { s.feed with lines := rest, held := event } = [event] :=
        Feed.coming_of_held hsink rfl
      refine h.goOn hsink rfl hsink h.hasStream h.ended (fun event' e => ?_) fun e => ?_
      · exact Option.some.inj e ▸ terminal
      · rw [Feed.coming_of_lines hsink held, lines, Feed.eventsOf_cons_of_some some,
          if_pos terminal] at hevents
        rw [later]
        exact hevents e
    | @wait event held terminal full =>
      have later : Feed.coming { s.feed with held := event } = [event] :=
        Feed.coming_of_held hsink rfl
      refine h.goOn hsink rfl hsink h.hasStream h.ended (fun event' e => ?_) fun e => ?_
      · exact Option.some.inj e ▸ terminal
      · rw [Feed.coming_of_held hsink held] at hevents
        rw [later]
        exact hevents e
    | @finish line rest event held lines some terminal room =>
      refine h.stop rfl h.hasStream h.ended fun e => ?_
      rw [Feed.coming_of_lines hsink held, lines, Feed.eventsOf_cons_of_some some,
        if_pos terminal] at hevents
      exact hevents e
    | @release event held terminal room =>
      refine h.stop rfl h.hasStream h.ended fun e => ?_
      rw [Feed.coming_of_held hsink held] at hevents
      exact hevents e
    | close held lines =>
      refine h.stop rfl h.hasStream h.ended fun e => ?_
      have nothing : Feed.eventsOf [] = [] := rfl
      rw [Feed.coming_of_lines hsink held, lines, nothing, List.append_nil] at hevents
      exact hevents e

/-- A turn of the consumer. -/
theorem receive (h : Faithful token events s) : Faithful token events (s.turn .receive) := by
  rw [turn_receive]
  refine ⟨h.owner, h.hasStream, h.ended, h.held, h.running, h.stopped, fun e => ?_⟩
  have hqueue : s.feed.channel.queue.take 1 ++ s.feed.channel.queue.tail =
      s.feed.channel.queue := by
    rw [← List.drop_one]
    exact List.take_append_drop 1 _
  rw [← h.events e, List.append_assoc, ← List.append_assoc (s.feed.channel.queue.take 1)]
  exact congrArg (fun queue => s.received ++ (queue ++ s.feed.coming)) hqueue

theorem turn (h : Faithful token events s) (t : Turn) : Faithful token events (s.turn t) := by
  cases t with
  | produce => exact h.produce
  | receive => exact h.receive

/-- Every turn keeps all events. -/
theorem run (h : Faithful token events s) (turns : List Turn) :
    Faithful token events (s.run turns) := by
  induction turns generalizing s with
  | nil => exact h
  | cons t turns ih => exact ih (h.turn t)

end Faithful

/-! ## When the producer stops -/

/-- How many turns with room a producer still needs, at most. -/
def left (s : FeedSession) : Nat :=
  if s.feed.channel.hasSink then s.feed.lines.length + (if s.feed.held.isSome then 1 else 0) + 1
  else 0

variable {token : Token} {events : List Event} {s : FeedSession}

theorem left_produce (h : Faithful token events s) : (s.turn .produce).left ≤
    s.left - if s.feed.channel.isFull then 0 else 1 := by
  rw [turn]
  cases hsink : s.feed.channel.hasSink with
  | false =>
    rw [Feed.step_of_stopped s.feed hsink, left, hsink]
    exact Nat.zero_le _
  | true =>
    have hmoved := Feed.step_produces hsink h.hasStream (h.owner ▸ h.running hsink) h.ended h.held
    have hleft : s.left = s.feed.lines.length + (if s.feed.held.isSome then 1 else 0) + 1 := by
      rw [left, if_pos hsink]
    generalize s.feed.step s.tokens = r at hmoved
    cases hmoved with
    | skip held lines | queue held lines | drop held lines =>
      have hroom : (if s.feed.channel.isFull then 0 else 1) ≤ 1 := by split <;> omega
      rw [left, hleft, if_pos hsink]
      simp only [held, lines, List.length_cons, Option.isSome_none, Bool.false_eq_true, if_false]
      omega
    | hold held lines _ _ full =>
      rw [left, hleft, if_pos hsink]
      simp only [held, lines, full, List.length_cons, Option.isSome_none, Option.isSome_some,
        Bool.false_eq_true, if_false, if_true]
      omega
    | wait held _ full =>
      rw [left, hleft, if_pos hsink]
      simp only [held, full, Option.isSome_some, if_true]
      omega
    | finish | release | close => exact Nat.zero_le _

/-- A producer that finds room often enough stops. -/
theorem left_run (h : Faithful token events s) (turns : List Turn) :
    (s.run turns).left ≤ s.left - s.rooms turns := by
  induction turns generalizing s with
  | nil => exact Nat.le_refl _
  | cons t turns ih =>
    have hrest := ih (h.turn t)
    cases t with
    | receive =>
      have hsame : (s.turn .receive).left = s.left := by rw [turn_receive]; rfl
      rw [hsame] at hrest
      exact hrest
    | produce =>
      have hfirst := left_produce h
      show ((s.turn .produce).run turns).left ≤ s.left - (_ + (s.turn .produce).rooms turns)
      omega

/-- When the producer finds room in all its turns, nothing is dropped. -/
theorem dropped_of_rooms (h : Faithful token events s) {turns : List Turn}
    (hrooms : s.rooms turns = turns.count .produce) :
    (s.run turns).feed.channel.dropped = s.feed.channel.dropped := by
  have rooms_le : ∀ (turns : List Turn) (s : FeedSession), s.rooms turns ≤ turns.count .produce := by
    intro turns
    induction turns with
    | nil => exact fun _ => Nat.le_refl _
    | cons t turns ih =>
      intro s
      cases t with
      | receive => exact ih _
      | produce =>
        have hrest := ih (s.turn .produce)
        rw [rooms, List.count_cons_self]
        split <;> omega
  induction turns generalizing s with
  | nil => rfl
  | cons t turns ih =>
    cases t with
    | receive =>
      refine (ih (h.turn .receive) hrooms).trans ?_
      rw [turn_receive]
    | produce =>
      have hrest := rooms_le turns (s.turn .produce)
      rw [rooms, List.count_cons_self] at hrooms
      have hroom : s.feed.channel.isFull = false := by
        refine eq_false_of_ne_true fun hfull => ?_
        rw [if_pos hfull] at hrooms
        omega
      rw [if_neg (by rw [hroom]; decide)] at hrooms
      refine (ih (h.turn .produce) (by omega)).trans ?_
      rw [turn]
      cases hsink : s.feed.channel.hasSink with
      | false => rw [Feed.step_of_stopped s.feed hsink]
      | true =>
        have hmoved := Feed.step_produces hsink h.hasStream (h.owner ▸ h.running hsink) h.ended
          h.held
        generalize s.feed.step s.tokens = r at hmoved
        cases hmoved with
        | drop _ _ _ _ full => exact absurd (hroom.symm.trans full) (by decide)
        | skip | queue | hold | wait | finish | release | close => rfl

theorem hasSink_of_left (h : s.left = 0) : s.feed.channel.hasSink = false := by
  cases hsink : s.feed.channel.hasSink with
  | false => rfl
  | true =>
    rw [left, if_pos hsink] at h
    omega

/-- The consumer takes what is queued, as far as its turns go. -/
theorem queue_run_receive (s : FeedSession) (n : Nat) :
    (s.run (List.replicate n .receive)).feed.channel =
      { s.feed.channel with queue := s.feed.channel.queue.drop n } := by
  induction n generalizing s with
  | zero => rfl
  | succ n ih =>
    have hrest := ih (s.turn .receive)
    rw [List.replicate_succ]
    refine hrest.trans ?_
    rw [turn_receive]
    simp

end FeedSession

/-! ## What follows a terminal event -/

namespace Feed

/-- A producer with other lines. -/
def relined (feed : Feed) (lines : List Line) (ended : Bool) : Feed :=
  { feed with lines := lines, ended := ended }

/-- Among these lines is a terminal event. -/
def Closing (lines : List Line) : Prop :=
  ∃ line ∈ lines, ∃ event, eventOf? line = some event ∧ event.isTerminal = true

/-- Other lines would make no difference: the producer has stopped, it waits with an event, or there
is a terminal event among the lines that are the same. -/
def Settled (feed : Feed) (lines : List Line) : Prop :=
  feed.channel.hasSink = false ∨ feed.held.isSome = true ∨
    ∃ first after after', feed.lines = first ++ after ∧ lines = first ++ after' ∧ Closing first

/-- What a delivery does has nothing to do with the lines that are left. -/
theorem deliver_relined (feed : Feed) (tokens : Tokens) (event : Event) (lines : List Line)
    (ended : Bool) : (feed.relined lines ended).deliver tokens event =
      ((feed.deliver tokens event).1.relined lines ended, (feed.deliver tokens event).2) := by
  rw [deliver, deliver, relined]
  dsimp only
  cases feed.channel.deliver tokens event with
  | mk delivery ch =>
    cases delivery with
    | waiting | refused => rfl
    | queued | dropped => cases event.isTerminal <;> rfl

/-- After a terminal event the producer has stopped or waits with it. -/
theorem settled_deliver (feed : Feed) (tokens : Tokens) {event : Event}
    (h : event.isTerminal = true ∨ feed.held.isSome = true) (lines : List Line) :
    (feed.deliver tokens event).1.Settled lines := by
  rw [deliver]
  cases feed.channel.deliver tokens event with
  | mk delivery ch =>
    cases delivery with
    | waiting => exact .inr (.inl rfl)
    | refused => exact .inl rfl
    | queued | dropped =>
      dsimp only
      rcases h with h | h
      · rw [if_pos h]
        exact .inl rfl
      · split
        · exact .inl rfl
        · exact .inr (.inl h)

theorem lines_deliver (feed : Feed) (tokens : Tokens) (event : Event) :
    (feed.deliver tokens event).1.lines = feed.lines := by
  rw [deliver]
  cases feed.channel.deliver tokens event with
  | mk delivery ch =>
    cases delivery with
    | waiting | refused => rfl
    | queued | dropped => cases event.isTerminal <;> rfl

/-- A step does the same whatever follows the terminal event. -/
theorem step_relined {feed : Feed} {lines : List Line} (h : feed.Settled lines) (tokens : Tokens)
    (ended : Bool) : ∃ lines', (feed.relined lines ended).step tokens =
      ((feed.step tokens).1.relined lines' ended, (feed.step tokens).2) ∧
        (feed.step tokens).1.Settled lines' := by
  cases hsink : feed.channel.hasSink with
  | false =>
    rw [step_of_stopped feed hsink, step_of_stopped (feed.relined lines ended) hsink]
    exact ⟨lines, rfl, h⟩
  | true =>
    cases htoken : tokens.isCancelled feed.channel.token with
    | true =>
      rw [step_of_cancelled feed hsink htoken,
        step_of_cancelled (feed.relined lines ended) hsink htoken]
      exact ⟨lines, rfl, .inl rfl⟩
    | false =>
      rw [step_of_running feed hsink htoken,
        step_of_running (feed.relined lines ended) hsink htoken]
      obtain ⟨ch, own, hasEnded, held⟩ := feed
      cases held with
      | some event =>
        exact ⟨lines, deliver_relined ⟨ch, own, hasEnded, some event⟩ tokens event lines ended,
          settled_deliver _ tokens (.inr rfl) lines⟩
      | none =>
        obtain ⟨first, after, after', rfl, rfl, line, hline, last, hlast, hterminal⟩ :
            ∃ first after after', own = first ++ after ∧ lines = first ++ after' ∧
              Closing first := by
          rcases h with h | h | h
          · exact absurd (hsink.symm.trans h) (by decide)
          · cases h
          · exact h
        -- The next line is one that both have.
        cases first with
        | nil => exact absurd hline List.not_mem_nil
        | cons next first =>
          have closing : (∀ event, eventOf? next = some event → event.isTerminal = false) →
              Closing first := fun hquiet => by
            rcases List.mem_cons.1 hline with rfl | hm
            · exact absurd ((hquiet last hlast).symm.trans hterminal) (by decide)
            · exact ⟨line, hm, last, hlast, hterminal⟩
          refine ⟨first ++ after', ?_⟩
          dsimp only [relined, List.cons_append]
          cases hnext : eventOf? next with
          | none =>
            refine ⟨rfl, .inr (.inr ⟨first, after, after', rfl, rfl, closing fun event e => ?_⟩)⟩
            cases hnext.symm.trans e
          | some event =>
            refine ⟨deliver_relined ⟨ch, first ++ after, hasEnded, none⟩ tokens event _ ended, ?_⟩
            cases hterminal' : event.isTerminal with
            | true => exact settled_deliver _ tokens (.inl hterminal') _
            | false =>
              refine .inr (.inr ⟨first, after, after', lines_deliver _ tokens event, rfl,
                closing fun event' e => ?_⟩)
              obtain rfl := Option.some.inj (hnext.symm.trans e)
              exact hterminal'

end Feed

namespace FeedSession

/-- A session with other lines. -/
def relined (s : FeedSession) (lines : List Line) (ended : Bool) : FeedSession :=
  { s with feed := s.feed.relined lines ended }

/-- What follows a terminal event makes no difference, whatever the turns. -/
theorem run_relined {s : FeedSession} {lines : List Line} (h : s.feed.Settled lines) (ended : Bool)
    (turns : List Turn) :
    ∃ lines', (s.relined lines ended).run turns = (s.run turns).relined lines' ended := by
  induction turns generalizing s lines with
  | nil => exact ⟨lines, rfl⟩
  | cons t turns ih =>
    obtain ⟨lines', hturn, hsettled⟩ : ∃ lines',
        (s.relined lines ended).turn t = (s.turn t).relined lines' ended ∧
          (s.turn t).feed.Settled lines' := by
      cases t with
      | receive =>
        rw [turn_receive, turn_receive]
        exact ⟨lines, rfl, h⟩
      | produce =>
        obtain ⟨lines', hstep, hsettled⟩ := Feed.step_relined h s.tokens ended
        refine ⟨lines', ?_, hsettled⟩
        show { s.relined lines ended with
          feed := ((s.feed.relined lines ended).step s.tokens).1
          tokens := ((s.feed.relined lines ended).step s.tokens).2 } = _
        rw [hstep]
        rfl
    obtain ⟨lines'', hrun⟩ := ih hsettled
    refine ⟨lines'', ?_⟩
    show ((s.relined lines ended).turn t).run turns = _
    rw [hturn, hrun]
    rfl

end FeedSession

end TaskWatch
