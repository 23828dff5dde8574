import TaskWatch.Proofs.Broker.Ledger

/-!
# Publishing a terminal event

A publication of a terminal event may have to wait, and anything may be done with the broker
meanwhile. `Underway` says how far it has come after some actions: the event has ended the streams of
`done`, and it is still on its way to those of `todo`, from whose queues only their consumers have
taken events since.

* `Changes.quiet_or_touched`: what an action can do to streams that no task has;
* `Underway.quiet`, `Underway.touched`: what is done keeps the event from none of the streams, and
  `Underway.settled`: it goes on then as far as it can;
* `Underway.published`, `Underway.step`: so it is underway from the start, whatever is done;
* `Underway.finished`: the publication waits only for streams that nobody has received from.
-/

namespace TaskWatch

/-- The event that the consumer got, if any. -/
def Reception.events : Reception → List Event
  | .event e => [e]
  | .pending | .closed => []

/-- The channel is another one from which some events were received. -/
structure Channel.Consumed (ch : Channel) (events : List Event) (ch' : Channel) : Prop where
  queue : events ++ ch'.queue = ch.queue
  rest : ch' = { ch with queue := ch'.queue }

namespace Channel.Consumed

variable {events : List Event} {ch ch' : Channel}

theorem refl (ch : Channel) : ch.Consumed [] ch := ⟨rfl, rfl⟩

theorem receive (h : ch.Consumed events ch') :
    ch.Consumed (events ++ ch'.receive.1.events) ch'.receive.2 := by
  unfold Channel.receive
  split
  · next e queue hqueue =>
    refine ⟨?_, ?_⟩
    · rw [← h.queue, hqueue, List.append_assoc]
      rfl
    · conv_lhs => rw [h.rest]
  · split
    · exact ⟨by rw [← h.queue]; exact congrArg (· ++ ch'.queue) (List.append_nil events), h.rest⟩
    · exact ⟨by rw [← h.queue]; exact congrArg (· ++ ch'.queue) (List.append_nil events), h.rest⟩

/-- The event that ends a channel comes last. -/
theorem ended (h : ch.Consumed events ch') (event : Event) :
    (ch.concluded event).Consumed events (ch'.concluded event) := by
  constructor
  · show events ++ (ch'.queue ++ [event]) = ch.queue ++ [event]
    rw [← List.append_assoc, h.queue]
  · conv_lhs => rw [h.rest]
    rfl

end Channel.Consumed

/-- Receiving gives an event or finds the queue empty. -/
theorem Channel.receive_events (ch : Channel) :
    ch.receive.1.events ≠ [] ∨ ch.receive.2.queue = [] := by
  unfold Channel.receive
  split
  · exact .inl (List.cons_ne_nil _ _)
  · next hqueue => exact .inr hqueue

namespace BrokerSession

open Broker

variable {s s' : BrokerSession} {b : Broker} {action : Action} {answer : Answer} {i j : Nat}
  {taskId : String}

/-! ## Streams that no task has -/

/-- A change in which no publication goes on that was under way before. -/
structure Quiet (s s' : BrokerSession) : Prop where
  publications : ∃ new, s'.publications = s.publications ++ new
  stream : ∀ {j ch}, j ∉ s.broker.held → s.broker.streams[j]? = some ch →
    s'.broker.streams[j]? = some ch ∧ s'.broker.streamCancelled j = s.broker.streamCancelled j
  held : ∀ {j}, j < s.broker.streams.length → j ∉ s.broker.held → j ∉ s'.broker.held
  waiting : ∀ {j}, j ∉ s.broker.held → j ∉ s.waiting → j ∉ s'.waiting

namespace Quiet

theorem of_broker (hstream : ∀ {j ch}, j ∉ s.broker.held → s.broker.streams[j]? = some ch →
      b.streams[j]? = some ch ∧ b.streamCancelled j = s.broker.streamCancelled j)
    (hheld : ∀ {j}, j < s.broker.streams.length → j ∉ s.broker.held → j ∉ b.held) :
    Quiet s { s with broker := b } :=
  ⟨⟨[], (List.append_nil _).symm⟩, hstream, hheld, fun _ hj => hj⟩

theorem refl (s : BrokerSession) : Quiet s s := of_broker (fun _ hch => ⟨hch, rfl⟩) fun _ hj => hj

end Quiet

theorem Sound.quiet_opened (h : s.Sound) (task : String) :
    Quiet s { s with broker := s.broker.issue.prune.opened task s.broker.tokens.next } := by
  have hpasses := Passes.prune s.broker.issue
  refine .of_broker (fun {j ch} hj hch => ?_) fun {j} hlt hj hm => ?_
  · have hstream : s.broker.issue.prune.streams[j]? = some ch :=
      (stream_prune (b := s.broker.issue) fun hm => absurd hm hj).trans hch
    have hopened : (s.broker.issue.prune.opened task s.broker.tokens.next).streams[j]? = some ch := by
      rw [streams_opened, List.getElem?_append_left (List.getElem?_eq_some_iff.1 hstream).1, hstream]
    refine ⟨hopened, ?_⟩
    rw [streamCancelled_eq hopened, streamCancelled_eq hch, tokens_opened,
      h.issue.orderly.isCancelled_passes hpasses List.not_mem_nil hch]
    rfl
  · have hm := (held_addLive _ _ _).subset hm
    rcases List.mem_append.1 hm with hm | hm
    · exact hj ((held_prune s.broker.issue).subset hm)
    · rw [hpasses.length] at hm
      exact Nat.ne_of_lt hlt (List.mem_singleton.1 hm)

theorem Sound.quiet_closed (h : s.Sound) (task : String) :
    Quiet s { s with broker := s.broker.close task } := by
  refine .of_broker (fun {j ch} hj hch => ?_) fun _ hj hm =>
    hj ((s.broker.held_close task).subset hm)
  have hnot : j ∉ s.broker.liveStreams task := fun hm => hj (mem_held hm)
  exact ⟨(Spares.close s.broker task j hnot).trans hch,
    h.orderly.streamCancelled_passes (.close s.broker task) hnot⟩

theorem Sound.quiet_published (h : s.Sound) (task : String) (event : Event) :
    Quiet s ⟨(s.broker.publication task event).2,
      s.publications ++ [(s.broker.publication task event).1]⟩ := by
  have hplaced : ∀ {j}, j ∉ s.broker.held →
      j ∉ (s.broker.publication task event).2.held ++
        pendingOf (s.broker.publication task event).1 := fun hj hm => by
    have hsub := (s.broker.publication_outcome task event).subperm.subset hm
    rcases List.mem_append.1 hsub with hm | hm
    · exact hj ((s.broker.held_withoutTask task).subset (List.mem_append_right _ hm))
    · exact hj (mem_held hm)
  refine ⟨⟨_, rfl⟩, fun {j ch} hj hch => ?_, fun _ hj hm => ?_, fun hj hw hm => ?_⟩
  · have hnot : j ∉ s.broker.liveStreams task := fun hm => hj (mem_held hm)
    exact ⟨(h.orderly.spares_publication task event j hnot).trans hch,
      h.orderly.streamCancelled_passes (s.broker.publication_passes task event) hnot⟩
  · exact hplaced hj (List.mem_append_left _ hm)
  · rw [BrokerSession.waiting, List.flatMap_append, List.flatMap_singleton] at hm
    rcases List.mem_append.1 hm with hm | hm
    · exact hw hm
    · exact hplaced hj (List.mem_append_right _ hm)

/-- An action leaves everything alone that no task has, or it is about one stream. -/
theorem Changes.quiet_or_touched (h : s.Sound) (hc : Changes s action answer s') :
    (Quiet s s' ∧ ∀ j, action = .receive j → answer = .missing ∧ s.broker.streamCancelled j = true) ∨
      (∃ i reception b, action = .receive i ∧ answer = .reception reception ∧
        s.broker.receive i = some (reception, b) ∧ s' = settle { s with broker := b }) ∨
      ∃ i b, (action = .cancel i ∨ action = .drop i) ∧ s.broker.Touches i b ∧
        s' = settle { s with broker := b } := by
  cases hc with
  | refused task =>
    exact .inl ⟨.of_broker (fun _ hch => ⟨hch, h.streamCancelled_refused _⟩) fun _ hj => hj,
      fun _ e => by cases e⟩
  | rejected | rejecting =>
    exact .inl ⟨.of_broker (fun _ hch => ⟨hch, rfl⟩) fun _ hj => hj, fun _ e => by cases e⟩
  | opened task => exact .inl ⟨h.quiet_opened task, fun _ e => by cases e⟩
  | published task event => exact .inl ⟨h.quiet_published task event, fun _ e => by cases e⟩
  | received i hb => exact .inr (.inl ⟨i, _, _, rfl, rfl, hb, rfl⟩)
  | cancelled i hi => exact .inr (.inr ⟨i, _, .inl rfl, touches_cancel hi, rfl⟩)
  | dropped i => exact .inr (.inr ⟨i, _, .inr rfl, touches_dropStream _ i, rfl⟩)
  | missed i gone which =>
    refine .inl ⟨.refl s, fun j e => ⟨rfl, ?_⟩⟩
    rcases which with rfl | rfl | rfl
    · cases e
      exact gone
    · cases e
    · cases e
  | closed task => exact .inl ⟨h.quiet_closed task, fun _ e => by cases e⟩

/-! ## What consumers took -/

/-- The event that the consumer of a stream got from an action, if any. -/
def takes (stream : Nat) : Action × Answer → List Event
  | (.receive i, .reception reception) => if i = stream then reception.events else []
  | _ => []

/-- The events that the consumer of a stream got, oldest first. -/
def taken (stream : Nat) (log : Log) : List Event := log.flatMap (takes stream)

theorem taken_concat (stream : Nat) (log : Log) (entry : Action × Answer) :
    taken stream (log ++ [entry]) = taken stream log ++ takes stream entry := by
  rw [taken, List.flatMap_append, List.flatMap_singleton]
  rfl

theorem takes_of_ne (h : action ≠ .receive j) : takes j (action, answer) = [] := by
  unfold takes
  split
  · next i reception e =>
    obtain ⟨rfl, -⟩ := Prod.mk.inj e
    exact if_neg fun (hij : i = j) => h (hij ▸ rfl)
  · rfl

/-! ## A terminal event on its way -/

section

variable (start : BrokerSession) (event : Event) (actions : List Action) (log : Log)
  (s : BrokerSession)

/-- The event has ended a stream: it was the last one in its queue. -/
structure Ended (j : Nat) : Prop where
  stream : ∃ ch ch', start.broker.streams[j]? = some ch ∧ s.broker.streams[j]? = some ch' ∧
    (ch.concluded event).Consumed (taken j log) ch'
  cancelled : s.broker.streamCancelled j = true
  held : j ∉ s.broker.held
  waiting : j ∉ s.waiting

/-- The event has yet to come to a stream, from which only its consumer has taken events. -/
def Awaits (j : Nat) : Prop :=
  ∃ ch ch', start.broker.streams[j]? = some ch ∧ s.broker.streams[j]? = some ch' ∧
    ch.Consumed (taken j log) ch' ∧
    (.receive j ∈ actions → taken j log ≠ [] ∨ ch'.queue = [])

/-- A terminal event that was published for some streams has ended those of `done` and is on its way
to those of `todo`. -/
structure Underway (streams done todo : List Nat) : Prop where
  split : streams = done ++ todo
  state : (todo = [] ∧
      s.publications[start.publications.length]? = some (.inr streams.length)) ∨
    ∃ p, s.publications[start.publications.length]? = some (.inl p) ∧
      p.event = event ∧ p.delivered = done.length ∧
      p.pending.filter (!s.broker.streamCancelled ·) = todo
  ended : ∀ j ∈ done, Ended start event log s j
  awaits : ∀ j ∈ todo, Awaits start actions log s j

end

variable {start : BrokerSession} {event : Event} {actions : List Action} {log : Log}
  {streams done todo : List Nat}

namespace Underway

/-- The streams that the event has yet to come to are not cancelled, and a publication has them. -/
theorem mem_todo (hu : Underway start event actions log s streams done todo) (hj : j ∈ todo) :
    j ∈ s.waiting ∧ s.broker.streamCancelled j = false := by
  rcases hu.state with ⟨rfl, -⟩ | ⟨p, hp, -, -, hfilter⟩
  · exact absurd hj List.not_mem_nil
  · rw [← hfilter, List.mem_filter, Bool.not_eq_true'] at hj
    exact ⟨Sound.pending_subset (List.mem_of_getElem? hp) hj.1, hj.2⟩

/-- Nothing happens to the streams while no publication goes on. -/
theorem quiet (hu : Underway start event actions log s streams done todo) (h : s.Sound)
    (hq : Quiet s s')
    (hmissed : ∀ j, action = .receive j → answer = .missing ∧ s.broker.streamCancelled j = true) :
    Underway start event (actions ++ [action]) (log ++ [(action, answer)]) s' streams done todo := by
  have htaken : ∀ j, taken j (log ++ [(action, answer)]) = taken j log := fun j => by
    rw [taken_concat]
    by_cases e : action = .receive j
    · rw [(hmissed j e).1, takes.eq_def, e]
      exact List.append_nil _
    · rw [takes_of_ne e, List.append_nil]
  have hstream : ∀ {j}, j ∈ s.waiting → j ∉ s.broker.held := h.notMem_held
  obtain ⟨new, hnew⟩ := hq.publications
  have hpublication : ∀ {state}, s.publications[start.publications.length]? = some state →
      s'.publications[start.publications.length]? = some state := fun hk => by
    rw [hnew, List.getElem?_append_left (List.getElem?_eq_some_iff.1 hk).1, hk]
  refine ⟨hu.split, ?_, fun j hj => ?_, fun j hj => ?_⟩
  · rcases hu.state with ⟨ht, hk⟩ | ⟨p, hk, hevent, hdelivered, hfilter⟩
    · exact .inl ⟨ht, hpublication hk⟩
    · refine .inr ⟨p, hpublication hk, hevent, hdelivered, ?_⟩
      rw [← hfilter]
      refine List.filter_congr fun j hj => ?_
      have hw := Sound.pending_subset (List.mem_of_getElem? hk) hj
      have hch := List.getElem?_eq_getElem (h.orderly.filed.pending j hw)
      rw [(hq.stream (hstream hw) hch).2]
  · obtain ⟨⟨ch, ch', hch, hch', hconsumed⟩, hcancelled, hheld, hwaiting⟩ := hu.ended j hj
    obtain ⟨hch'', hsame⟩ := hq.stream hheld hch'
    exact ⟨⟨ch, ch', hch, hch'', (htaken j).symm ▸ hconsumed⟩, hsame.trans hcancelled,
      hq.held (List.getElem?_eq_some_iff.1 hch').1 hheld, hq.waiting hheld hwaiting⟩
  · obtain ⟨ch, ch', hch, hch', hconsumed, hreceived⟩ := hu.awaits j hj
    obtain ⟨hw, hc⟩ := hu.mem_todo hj
    rw [Awaits, htaken]
    refine ⟨ch, ch', hch, (hq.stream (hstream hw) hch').1, hconsumed, fun hm => hreceived ?_⟩
    rcases List.mem_append.1 hm with hm | hm
    · exact hm
    · have hgone := (hmissed j (List.mem_singleton.1 hm).symm).2
      exact absurd (hgone.symm.trans hc) (by decide)

/-- What is done with one stream is that its consumer receives from it, if it is one of those that
the event is for. -/
theorem stream_touched (h : s.Sound) (hb : s.broker.Touches i b)
    (hi : i ∈ streams → ∃ reception, action = .receive i ∧ answer = .reception reception ∧
      s.broker.receive i = some (reception, b))
    (hother : j ≠ i → action ≠ .receive j) (hj : j ∈ streams) {ch' : Channel}
    (hch' : s.broker.streams[j]? = some ch') :
    b.streamCancelled j = s.broker.streamCancelled j ∧ ∃ ch'', b.streams[j]? = some ch'' ∧
      (∀ {ch events}, Channel.Consumed ch events ch' →
        ch.Consumed (events ++ takes j (action, answer)) ch'') ∧
      (action = .receive j → takes j (action, answer) ≠ [] ∨ ch''.queue = []) ∧
      (action ≠ .receive j → ch'' = ch') := by
  by_cases hij : j = i
  · subst hij
    obtain ⟨reception, rfl, rfl, hreceive⟩ := hi hj
    obtain ⟨ch, hch, -, rfl, rfl⟩ := receive_eq_some hreceive
    obtain rfl : ch = ch' := Option.some.inj (hch.symm.trans hch')
    have htakes : takes j (.receive j, .reception ch.receive.1) = ch.receive.1.events := if_pos rfl
    rw [htakes]
    exact ⟨streamCancelled_of_tokens hb.passes rfl j, ch.receive.2,
      List.getElem?_set_self (List.getElem?_eq_some_iff.1 hch).1, fun hc => hc.receive,
      fun _ => ch.receive_events, fun hne => absurd rfl hne⟩
  · have hnot : j ∉ [i] := fun hm => hij (List.mem_singleton.1 hm)
    refine ⟨h.orderly.streamCancelled_passes hb.passes hnot, ch', (hb.spares j hnot).trans hch',
      fun hc => ?_, fun e => absurd e (hother hij), fun _ => rfl⟩
    rw [takes_of_ne (hother hij), List.append_nil]
    exact hc

theorem awaits_touched {ch' ch'' : Channel} {ch : Channel}
    (hch : start.broker.streams[j]? = some ch) (hch'' : b.streams[j]? = some ch'')
    (hconsumed : ch.Consumed (taken j log ++ takes j (action, answer)) ch'')
    (hreceived : .receive j ∈ actions → taken j log ≠ [] ∨ ch'.queue = [])
    (hnow : action = .receive j → takes j (action, answer) ≠ [] ∨ ch''.queue = [])
    (hsame : action ≠ .receive j → ch'' = ch') :
    Awaits start (actions ++ [action]) (log ++ [(action, answer)]) { s with broker := b } j := by
  rw [Awaits, taken_concat]
  refine ⟨ch, ch'', hch, hch'', hconsumed, fun hm => ?_⟩
  by_cases e : action = .receive j
  · exact (hnow e).imp_left fun hne => List.append_ne_nil_of_right_ne_nil _ hne
  · rw [hsame e, takes_of_ne e, List.append_nil]
    exact hreceived ((List.mem_append.1 hm).resolve_right fun hm =>
      e (List.mem_singleton.1 hm).symm)

/-- What is done with one stream keeps the event from none. -/
theorem touched (hu : Underway start event actions log s streams done todo) (h : s.Sound)
    (hb : s.broker.Touches i b)
    (hi : i ∈ streams → ∃ reception, action = .receive i ∧ answer = .reception reception ∧
      s.broker.receive i = some (reception, b))
    (hother : ∀ {j}, j ≠ i → action ≠ .receive j) :
    Underway start event (actions ++ [action]) (log ++ [(action, answer)])
      { s with broker := b } streams done todo := by
  have hmem : ∀ {j}, j ∈ done ++ todo → j ∈ streams := fun hj => hu.split ▸ hj
  have hawaits : ∀ j ∈ todo, b.streamCancelled j = false ∧
      Awaits start (actions ++ [action]) (log ++ [(action, answer)]) { s with broker := b } j :=
    fun j hj => by
      obtain ⟨ch, ch', hch, hch', hconsumed, hreceived⟩ := hu.awaits j hj
      obtain ⟨hsame, ch'', hch'', hconsume, hnow, hkeep⟩ :=
        stream_touched h hb hi hother (hmem (List.mem_append_right done hj)) hch'
      exact ⟨hsame.trans (hu.mem_todo hj).2,
        awaits_touched hch hch'' (hconsume hconsumed) hreceived hnow hkeep⟩
  refine ⟨hu.split, ?_, fun j hj => ?_, fun j hj => (hawaits j hj).2⟩
  · rcases hu.state with hk | ⟨p, hk, hevent, hdelivered, hfilter⟩
    · exact .inl hk
    · -- A stream that was cancelled stays so, and the others are not cancelled by the action.
      refine .inr ⟨p, hk, hevent, hdelivered, ?_⟩
      rw [← hfilter]
      refine List.filter_congr fun j hj => ?_
      cases hc : s.broker.streamCancelled j with
      | true => rw [streamCancelled_mono hb.passes hc]
      | false =>
        have hj' : j ∈ todo := by
          rw [← hfilter, List.mem_filter, hc]
          exact ⟨hj, rfl⟩
        rw [(hawaits j hj').1]
  · obtain ⟨⟨ch, ch', hch, hch', hconsumed⟩, hcancelled, hheld, hwaiting⟩ := hu.ended j hj
    obtain ⟨hsame, ch'', hch'', hconsume, -, -⟩ :=
      stream_touched h hb hi hother (hmem (List.mem_append_left todo hj)) hch'
    refine ⟨⟨ch, ch'', hch, hch'', ?_⟩, hsame.trans hcancelled, held_of_live hb.live ▸ hheld,
      hwaiting⟩
    rw [taken_concat]
    exact hconsume hconsumed

/-- The event goes on as far as it can. -/
theorem settled (hu : Underway start event actions log s streams done todo)
    (h : s.broker.Orderly s.waiting)
    (hr : Advances s.broker s.publications (advanceAll s.broker s.publications)) :
    ∃ done todo, Underway start event actions log s.settle streams done todo := by
  have hheld : s.settle.broker.held = s.broker.held := held_of_live hr.live
  have hended : ∀ j ∈ done, Ended start event log s.settle j := fun j hj => by
    obtain ⟨⟨ch, ch', hch, hch', hconsumed⟩, hcancelled, hnotHeld, hwaiting⟩ := hu.ended j hj
    exact ⟨⟨ch, ch', hch, (hr.spares j hwaiting).trans hch', hconsumed⟩,
      (h.streamCancelled_passes hr.passes hwaiting).trans hcancelled, hheld ▸ hnotHeld,
      fun hm => hwaiting (hr.pending hm)⟩
  rcases hu.state with ⟨rfl, hk⟩ | ⟨p, hk, hevent, hdelivered, hfilter⟩
  · exact ⟨done, [], hu.split, .inl ⟨rfl, hr.finished hk⟩, hended,
      fun j hj => absurd hj List.not_mem_nil⟩
  · obtain ⟨done₁, todo₁, state, hpending, hstate, hreached, hleft, hkept⟩ := hr.reached hk
    rw [hpending, List.filter_append] at hfilter
    have hdone : ∀ j ∈ done₁.filter (!s.broker.streamCancelled ·), j ∈ todo := fun j hj =>
      hfilter ▸ List.mem_append_left _ hj
    have htodo : ∀ j ∈ todo₁.filter (!s.broker.streamCancelled ·), j ∈ todo := fun j hj =>
      hfilter ▸ List.mem_append_right _ hj
    refine ⟨done ++ done₁.filter (!s.broker.streamCancelled ·),
      todo₁.filter (!s.broker.streamCancelled ·), ?_, ?_, fun j hj => ?_, fun j hj => ?_⟩
    · rw [List.append_assoc, hfilter, hu.split]
    · cases todo₁ with
      | nil =>
        refine .inl ⟨rfl, ?_⟩
        have hlength : streams.length = done.length +
            (done₁.filter (!s.broker.streamCancelled ·)).length := by
          rw [hu.split, List.length_append, ← hfilter, List.filter_nil, List.append_nil]
        rw [hlength, ← hdelivered, ← hreached.ends rfl]
        exact hstate
      | cons i rest =>
        refine .inr ⟨_, hstate.trans (congrArg some (hreached.waits rfl).1), hevent, ?_,
          List.filter_congr fun j hj => by rw [← (hkept j hj).2]; rfl⟩
        rw [List.length_append, ← hdelivered]
    · rcases List.mem_append.1 hj with hj | hj
      · exact hended j hj
      · obtain ⟨hw, hc⟩ := hu.mem_todo (hdone j hj)
        obtain ⟨ch, ch', hch, hch', hconsumed, -⟩ := hu.awaits j (hdone j hj)
        have hj := List.mem_of_mem_filter hj
        obtain ⟨hstream, hcancelled⟩ :=
          hreached.ended hj hch' ((streamCancelled_eq hch').symm.trans hc)
        rw [hevent] at hstream
        refine ⟨⟨ch, _, hch, hstream, hconsumed.ended event⟩,
          (streamCancelled_eq hstream).trans hcancelled, fun hm => ?_, hleft j hj⟩
        exact (List.nodup_append.1 h.filed.nodup).2.2 _ (hheld ▸ hm) _ hw rfl
    · obtain ⟨ch, ch', hch, hch', hrest⟩ := hu.awaits j (htodo j hj)
      exact ⟨ch, ch', hch, (hkept j (List.mem_of_mem_filter hj)).1.trans hch', hrest⟩

/-- An action that cancels none of the streams lets the event go on. -/
theorem step (hu : Underway start event actions log s streams done todo) (h : s.Sound)
    (action : Action) (hcancel : ∀ j ∈ streams, action ≠ .cancel j ∧ action ≠ .drop j) :
    ∃ done todo, Underway start event (actions ++ [action])
      (log ++ [(action, (s.step action).1)]) (s.step action).2 streams done todo := by
  have hc := (h.changes action).quiet_or_touched h
  generalize (s.step action).1 = answer, (s.step action).2 = s' at hc
  rcases hc with ⟨hq, hmissed⟩ | ⟨i, reception, b, rfl, rfl, hreceive, rfl⟩ | ⟨i, b, hi, hb, rfl⟩
  · exact ⟨done, todo, hu.quiet h hq hmissed⟩
  · have hb := touches_receive hreceive
    have hu' := hu.touched h hb (fun _ => ⟨reception, rfl, rfl, hreceive⟩)
      fun hne e => hne (Action.receive.inj e).symm
    exact hu'.settled (hb.orderly h.orderly) (h.advances hb)
  · have hnot : ∀ {j}, action ≠ .receive j := fun e => by rcases hi with rfl | rfl <;> cases e
    have hu' : Underway start event (actions ++ [action]) (log ++ [(action, answer)])
        { s with broker := b } streams done todo :=
      hu.touched h hb (fun hm => absurd hi (not_or.2 (hcancel i hm))) fun _ => hnot
    exact hu'.settled (hb.orderly h.orderly) (h.advances hb)

/-- The event when it has just been published for the subscribers of a task. -/
theorem published (h : s.Sound) (he : event.isTerminal = true) (taskId : String) :
    ∃ done todo, Underway s event [] [] (s.step (.publish taskId event)).2
      (s.broker.subscribers taskId) done todo := by
  have horderly : (s.act (.publish taskId event)).2.broker.Orderly
      (s.act (.publish taskId event)).2.waiting := by
    have hwaiting : (s.act (.publish taskId event)).2.waiting =
        s.waiting ++ s.broker.liveStreams taskId :=
      List.flatMap_append.trans (congrArg _ (List.flatMap_singleton ..))
    rw [hwaiting]
    exact h.orderly.withoutTask taskId
  have hterminal : ∀ {p}, .inl p ∈ (s.act (.publish taskId event)).2.publications →
      p.event.isTerminal = true ∧ p.kept = [] := fun hm => by
    rcases List.mem_append.1 hm with hm | hm
    · exact ⟨(h.waits hm).terminal, (h.waits hm).kept⟩
    · obtain rfl := Sum.inl.inj (List.mem_singleton.1 hm)
      exact ⟨he, rfl⟩
  have hu : Underway s event [] [] (s.act (.publish taskId event)).2
      (s.broker.subscribers taskId) [] (s.broker.subscribers taskId) := by
    refine ⟨rfl, .inr ⟨_, List.getElem?_concat_length, rfl, rfl, rfl⟩,
      fun j hj => absurd hj List.not_mem_nil, fun j hj => ?_⟩
    obtain ⟨ch, hch, -⟩ := exists_stream (mem_subscribers.1 hj).2
    exact ⟨ch, ch, hch, hch, .refl ch, fun hm => absurd hm List.not_mem_nil⟩
  exact hu.settled horderly (advanceAll_advances horderly hterminal)

/-- An event that is still on its way waits for a stream whose queue was full when the event was
published, and from which nobody has received since. So it has arrived when all have received. -/
theorem finished (hu : Underway start event actions log s streams done todo) (h : s.Sound)
    (hbounded : start.broker.Bounded)
    (hreceived : ∀ j ∈ streams, ∀ ch, start.broker.streams[j]? = some ch → ch.isFull = true →
      .receive j ∈ actions) :
    s.publications[start.publications.length]? = some (.inr streams.length) := by
  rcases hu.state with ⟨-, hk⟩ | ⟨p, hk, -, -, hfilter⟩
  · exact hk
  · obtain ⟨i, rest, ch', hpending, hch', hc, hfull⟩ := (h.waits (List.mem_of_getElem? hk)).full
    have hi : i ∈ todo := by
      rw [← hfilter, hpending, List.mem_filter, streamCancelled_eq hch', hc]
      exact ⟨List.mem_cons_self .., rfl⟩
    obtain ⟨ch, ch'', hch, hch'', hconsumed, hafter⟩ := hu.awaits i hi
    obtain rfl : ch' = ch'' := Option.some.inj (hch'.symm.trans hch'')
    have hbound := hbounded.getElem? hch
    have hcapacity : ch'.capacity = ch.capacity := by rw [hconsumed.rest]
    have hlength : (taken i log).length + ch'.queue.length = ch.queue.length := by
      rw [← List.length_append, hconsumed.queue]
    have hfull' : ch.capacity ≤ ch'.queue.length := hcapacity ▸ of_decide_eq_true hfull
    have hnone : taken i log = [] := by
      rw [← List.length_eq_zero_iff]
      have := hbound.queue
      omega
    have hstart : ch.isFull = true := decide_eq_true (by omega)
    have hi' : i ∈ streams := hu.split ▸ List.mem_append_right done hi
    rcases hafter (hreceived i hi' ch hch hstart) with hne | hempty
    · exact absurd hnone hne
    · rw [hempty] at hfull'
      exact absurd hbound.room (Nat.not_lt.2 hfull')

end Underway

end BrokerSession

end TaskWatch
