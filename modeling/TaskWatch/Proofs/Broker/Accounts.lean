import TaskWatch.Proofs.Broker.Publishing

/-!
# Subscriptions are accounted for

Whatever was done with a broker, the books tell who subscribes to a task (`subscribed`) and which
message the next watch of it fails with (`rejection`). A publication is for exactly those streams:
it gives their number back, and each of them gets the event once (`Spreads`, `Ends`).

* `accounts_run`: this is so after every run.
-/

namespace TaskWatch.BrokerSession

open Broker

variable {s s' : BrokerSession} {event : Event} {action : Action} {taskId : String}

/-! ## What a publication is to do -/

/-- An event that does not end its task was published for some streams: it was handed to each of them
at once, and all of them subscribe as before. -/
structure Spreads (s : BrokerSession) (streams : List Nat) (event : Event) (s' : BrokerSession) :
    Prop where
  returned : s'.publications = s.publications ++ [.inr streams.length]
  handed : ∀ j ∈ streams, ∃ ch, s.broker.streams[j]? = some ch ∧
    s'.broker.streams[j]? = some (ch.handed event)
  count : ∀ task, s'.broker.subscriberCount task = s.broker.subscriberCount task

/-- How far a terminal event has come that was published at the start for some streams, after some
actions and the log of them. -/
structure Arrives (start : BrokerSession) (streams : List Nat) (event : Event)
    (actions : List Action) (log : Log) (s : BrokerSession) : Prop where
  returned : (∃ p, s.publications[start.publications.length]? = some (.inl p)) ∨
    s.publications[start.publications.length]? = some (.inr streams.length)
  /-- A stream got the event once, last of all, and was closed; or nothing has become of it yet, and
  the publication has not returned. -/
  stream : ∀ j ∈ streams, ∃ ch ch', start.broker.streams[j]? = some ch ∧
    s.broker.streams[j]? = some ch' ∧
    ((ch.concluded event).Consumed (taken j log) ch' ∧ s.broker.streamCancelled j = true ∨
      ch.Consumed (taken j log) ch' ∧ s.broker.streamCancelled j = false ∧
        ∃ p, s.publications[start.publications.length]? = some (.inl p))
  /-- Consumers that receive let it arrive. -/
  done : (∀ j ∈ streams, ∀ ch, start.broker.streams[j]? = some ch → ch.isFull = true →
      .receive j ∈ actions) →
    s.publications[start.publications.length]? = some (.inr streams.length)

/-- A terminal event was published for some streams, which no longer subscribe. It arrives whatever
is done meanwhile, as long as nobody cancels one of them. -/
structure Ends (s : BrokerSession) (streams : List Nat) (taskId : String) (event : Event)
    (s' : BrokerSession) : Prop where
  count : ∀ task, s'.broker.subscriberCount task =
    if task = taskId then 0 else s.broker.subscriberCount task
  arrives : ∀ later, (∀ j ∈ streams, .cancel j ∉ later ∧ .drop j ∉ later) →
    Arrives s streams event later (s'.run later).1 (s'.run later).2

/-- What the books tell of a broker is so, and any further action does what they say. -/
structure Accounts (log : Log) (s : BrokerSession) : Prop where
  subscribers : ∀ taskId, s.broker.subscribers taskId = subscribed taskId log
  nodup : ∀ taskId, (subscribed taskId log).Nodup
  count : ∀ taskId, s.broker.subscriberCount taskId = (subscribed taskId log).length
  /-- Nothing but what is about a stream or its task touches a subscriber. -/
  apart : ∀ action {taskId j}, j ∈ subscribed taskId log → action.concerns taskId j = false →
    (s.step action).2.broker.streams[j]? = s.broker.streams[j]?
  spreads : ∀ taskId event, event.isTerminal = false →
    Spreads s (subscribed taskId log) event (s.step (.publish taskId event)).2
  ends : ∀ taskId event, event.isTerminal = true →
    Ends s (subscribed taskId log) taskId event (s.step (.publish taskId event)).2
  /-- What a publication has returned stays so. -/
  returned : ∀ action {k n : Nat}, s.publications[k]? = some (.inr n) →
    (s.step action).2.publications[k]? = some (.inr n)
  /-- A watch whose token is cancelled uses up nothing but the token. -/
  refused : ∀ taskId, s.step (.watch taskId true) =
    (.failed .cancelled, { s with broker := s.broker.issue.cancel s.broker.tokens.next })
  /-- A watch that is rejected uses up the token and the rejection. -/
  rejected : ∀ {taskId message}, rejection taskId log = some message →
    s.step (.watch taskId false) = (.failed (.daemon message), { s with
      broker := { s.broker.issue with
        rejections := s.broker.rejections.filter (·.1 != taskId) } })
  /-- Any other watch opens a stream. -/
  opened : ∀ {taskId}, rejection taskId log = none →
    (s.step (.watch taskId false)).1 = .opened s.broker.streams.length ∧
      (s.step (.watch taskId false)).2.broker.streams[s.broker.streams.length]? =
        some (.new taskId s.broker.capacity s.broker.tokens.next)

/-! ## Events that do not end a task -/

theorem Sound.spreads (h : s.Sound) (he : event.isTerminal = false) (taskId : String) :
    Spreads s (s.broker.subscribers taskId) event (s.step (.publish taskId event)).2 := by
  have hr := h.orderly.publication_hands he taskId
  rw [h.step_publish]
  refine ⟨?_, fun j hj => ?_, fun task => congrArg List.length (h.subscribers_publication he taskId task)⟩
  · have hstate : (s.broker.publication taskId event).1 =
        .inr (s.broker.subscribers taskId).length :=
      hr.state.trans (congrArg Sum.inr (Nat.zero_add _))
    rw [hstate]
  · obtain ⟨hlive, hc⟩ := mem_subscribers.1 hj
    obtain ⟨ch, hch, hc⟩ := exists_stream hc
    exact ⟨ch, hch, hr.handed hlive hch hc⟩

/-! ## Terminal events -/

/-- An event on its way arrives. -/
theorem Underway.arrives {start : BrokerSession} {actions : List Action} {log : Log}
    {streams done todo : List Nat} (hu : Underway start event actions log s streams done todo)
    (h : s.Sound) (hbounded : start.broker.Bounded) :
    Arrives start streams event actions log s := by
  refine ⟨?_, fun j hj => ?_, fun hreceived => hu.finished h hbounded hreceived⟩
  · rcases hu.state with ⟨-, hk⟩ | ⟨p, hk, -⟩
    · exact .inr hk
    · exact .inl ⟨p, hk⟩
  · rw [hu.split] at hj
    rcases List.mem_append.1 hj with hj | hj
    · obtain ⟨⟨ch, ch', hch, hch', hconsumed⟩, hcancelled, -, -⟩ := hu.ended j hj
      exact ⟨ch, ch', hch, hch', .inl ⟨hconsumed, hcancelled⟩⟩
    · obtain ⟨ch, ch', hch, hch', hconsumed, -⟩ := hu.awaits j hj
      refine ⟨ch, ch', hch, hch', .inr ⟨hconsumed, (hu.mem_todo hj).2, ?_⟩⟩
      rcases hu.state with ⟨rfl, -⟩ | ⟨p, hk, -⟩
      · exact absurd hj List.not_mem_nil
      · exact ⟨p, hk⟩

theorem Sound.arrives (h : s.Sound) (he : event.isTerminal = true) (taskId : String)
    (later : List Action)
    (hlater : ∀ j ∈ s.broker.subscribers taskId, .cancel j ∉ later ∧ .drop j ∉ later) :
    Arrives s (s.broker.subscribers taskId) event later
      ((s.step (.publish taskId event)).2.run later).1
      ((s.step (.publish taskId event)).2.run later).2 := by
  have hrun := run_induction (s := (s.step (.publish taskId event)).2)
    (P := fun actions log s' => s'.Sound ∧
      ((∀ j ∈ s.broker.subscribers taskId, .cancel j ∉ actions ∧ .drop j ∉ actions) →
        ∃ done todo, Underway s event actions log s' (s.broker.subscribers taskId) done todo))
    ⟨h.step _, fun _ => Underway.published h he taskId⟩
    (fun {actions log s'} ⟨h', hu⟩ action => ⟨h'.step action, fun hall => ?_⟩) later
  · obtain ⟨h', hu⟩ := hrun
    obtain ⟨done, todo, hu⟩ := hu hlater
    exact hu.arrives h' h.orderly.bounded
  · obtain ⟨done, todo, hu⟩ := hu fun j hj =>
      ⟨fun hm => (hall j hj).1 (List.mem_append_left _ hm),
        fun hm => (hall j hj).2 (List.mem_append_left _ hm)⟩
    refine hu.step h' action fun j hj => ⟨fun e => (hall j hj).1 ?_, fun e => (hall j hj).2 ?_⟩
    · exact List.mem_append_right _ (List.mem_singleton.2 e.symm)
    · exact List.mem_append_right _ (List.mem_singleton.2 e.symm)

theorem Sound.ends (h : s.Sound) (he : event.isTerminal = true) (taskId : String) :
    Ends s (s.broker.subscribers taskId) taskId event (s.step (.publish taskId event)).2 := by
  refine ⟨fun task => ?_, h.arrives he taskId⟩
  have hlive := (s.broker.publication_outcome taskId event).live_eq he rfl
  have hsubscribers := h.subscribers_of_emptied (s.broker.publication_passes taskId event) hlive task
  rw [h.step_publish, subscriberCount_eq]
  dsimp only
  rw [hsubscribers]
  split
  · rfl
  · rfl

/-! ## Watches -/

theorem Sound.step_watch_cancelled (h : s.Sound) (taskId : String) : s.step (.watch taskId true) =
    (.failed .cancelled, { s with broker := s.broker.issue.cancel s.broker.tokens.next }) := by
  have hc := h.changes (.watch taskId true)
  generalize s.step (.watch taskId true) = r at hc
  obtain ⟨answer, s'⟩ := r
  cases hc with
  | refused => rfl
  | missed i gone which => rcases which with e | e | e <;> cases e

/-- What becomes of a watch whose token is not cancelled beforehand. -/
theorem Sound.step_watch (h : s.Sound) (taskId : String) :
    match s.kept taskId with
    | some message => s.step (.watch taskId false) = (.failed (.daemon message), { s with
        broker := { s.broker.issue with
          rejections := s.broker.rejections.filter (·.1 != taskId) } })
    | none => s.step (.watch taskId false) = (.opened s.broker.streams.length,
        { s with broker := s.broker.issue.prune.opened taskId s.broker.tokens.next }) := by
  have hc := h.changes (.watch taskId false)
  generalize s.step (.watch taskId false) = r at hc
  obtain ⟨answer, s'⟩ := r
  cases hc with
  | rejected _ message hr => rw [kept, hr]; rfl
  | opened _ hr => rw [kept, hr]; rfl
  | missed i gone which => rcases which with e | e | e <;> cases e

/-! ## Every run -/

/-- A publication that has returned is left alone. -/
theorem Sound.returned (h : s.Sound) (action : Action) {k n : Nat}
    (hk : s.publications[k]? = some (.inr n)) :
    (s.step action).2.publications[k]? = some (.inr n) := by
  have hc := (h.changes action).quiet_or_touched h
  generalize (s.step action).1 = answer, (s.step action).2 = s' at hc
  rcases hc with ⟨hq, -⟩ | ⟨i, reception, b, -, -, hreceive, rfl⟩ | ⟨i, b, -, hb, rfl⟩
  · obtain ⟨new, hnew⟩ := hq.publications
    rw [hnew, List.getElem?_append_left (List.getElem?_eq_some_iff.1 hk).1, hk]
  · exact (h.advances (touches_receive hreceive)).finished hk
  · exact (h.advances hb).finished hk

/-- The books of a broker are right after every run. -/
theorem accounts_run (capacity : Nat) (actions : List Action) :
    Accounts ((new capacity).run actions).1 ((new capacity).run actions).2 := by
  have h := sound_run capacity actions
  have hsubscribers := subscribers_run capacity actions
  have hkept := kept_run capacity actions
  generalize ((new capacity).run actions).1 = log, ((new capacity).run actions).2 = s at *
  refine ⟨hsubscribers, fun taskId => ?_, fun taskId => ?_, fun action {taskId j} hj hother => ?_,
    fun taskId event he => ?_, fun taskId event he => ?_, fun action _ _ hk => h.returned action hk,
    h.step_watch_cancelled, fun {taskId message} hr => ?_, fun {taskId} hr => ?_⟩
  · rw [← hsubscribers]
    exact h.orderly.filed.nodup_subscribers taskId
  · rw [subscriberCount_eq, hsubscribers]
  · rw [← hsubscribers] at hj
    exact (h.changes action).stream_eq h hj hother
  · rw [← hsubscribers]
    exact h.spreads he taskId
  · rw [← hsubscribers]
    exact h.ends he taskId
  · have hwatch := h.step_watch taskId
    rw [hkept, hr] at hwatch
    exact hwatch
  · have hwatch := h.step_watch taskId
    rw [hkept, hr] at hwatch
    rw [hwatch]
    exact ⟨rfl, s.stream_new taskId⟩

/-- One event fills the queue, so the end of the task waits until it was received. -/
example :
    let progress : Event := { kind := .progress }
    let completed : Event := { kind := .completed }
    let actions := [.watch "t" false, .publish "t" progress, .publish "t" completed, .receive 0]
    ((new 1).run (actions.take 3)).2.publications ≠ [.inr 1, .inr 1] ∧
      ((new 1).run actions).2.publications = [.inr 1, .inr 1] := by
  decide +kernel

end TaskWatch.BrokerSession
