import TaskWatch.Proofs.Tracker.Delivery
import TaskWatch.Proofs.Tracker.InOrder
import TaskWatch.Proofs.Tracker.Start

/-!
# A watcher that is subscribed to its task

From the moment when a watcher opens its stream until the stream is closed or cancelled, the stream is
live for its task: what is published for the task is queued there, as long as there is room
(`LocalTracker.Subscribed`).

* `Subscribed.of_opening`: a watcher that is not rejected opens its stream;
* `Subscribed.publish`, `Subscribed.publish_last`: an event is queued;
* `Subscribed.close`: the end of the task leaves the queue as it is;
* `Subscribed.poll`, `Subscribed.other`: the watcher takes what is queued, and nobody else does.
-/

namespace TaskWatch

namespace Broker

variable {b : Broker} {j : Nat} {ch : Channel}

/-- What touches no stream cancels nothing. -/
theorem Passes.uncancelled {b' : Broker} (h : Passes [] b b') {token : Token}
    (hc : b.tokens.isCancelled token = false) : b'.tokens.isCancelled token = false := by
  refine eq_false_of_ne_true fun hc' => ?_
  obtain hc' | ⟨i, hi, -⟩ := h.cause hc'
  · exact absurd (hc.symm.trans hc') (by decide)
  · exact List.not_mem_nil hi

/-- A stream that is closed keeps what is queued. -/
theorem queue_closeStream (hch : b.streams[j]? = some ch) (i : Nat) :
    ∃ ch', (b.closeStream i).streams[j]? = some ch' ∧ ch'.queue = ch.queue := by
  by_cases hij : i = j
  · subst hij
    have hlt := (List.getElem?_eq_some_iff.1 hch).1
    refine ⟨ch.close.dropSink, ?_, rfl⟩
    rw [closeStream, stream?, hch]
    exact List.getElem?_set_self hlt
  · have hnot : j ∉ [i] := fun hm => hij (List.mem_singleton.1 hm).symm
    obtain ⟨ch', hch', hqueue⟩ := (Passes.closeStream b i).queue hch hnot
    exact ⟨ch', hch', hqueue⟩

theorem isCancelled_closeStream (hch : b.streams[j]? = some ch) :
    (b.closeStream j).tokens.isCancelled ch.token = true := by
  rw [closeStream, stream?, hch]
  show (b.tokens.cancel ch.token).isCancelled ch.token = true
  rw [Tokens.isCancelled_cancel, beq_self_eq_true, Bool.true_or]

theorem queue_closeStreams (hch : b.streams[j]? = some ch) (is : List Nat) :
    ∃ ch', (is.foldl closeStream b).streams[j]? = some ch' ∧ ch'.queue = ch.queue ∧
      (j ∈ is → (is.foldl closeStream b).tokens.isCancelled ch.token = true) := by
  induction is generalizing b ch with
  | nil => exact ⟨ch, hch, rfl, fun hm => absurd hm List.not_mem_nil⟩
  | cons i is ih =>
    obtain ⟨ch₁, hch₁, same, -⟩ := (Passes.closeStream b i).stream hch
    obtain ⟨ch₂, hch₂, hqueue₂⟩ := queue_closeStream hch i
    obtain rfl : ch₁ = ch₂ := Option.some.inj (hch₁.symm.trans hch₂)
    obtain ⟨ch', hch', hqueue, hcancelled⟩ := ih hch₁
    rw [same.token] at hcancelled
    refine ⟨ch', hch', hqueue.trans hqueue₂, fun hm => ?_⟩
    obtain rfl | hm := List.mem_cons.1 hm
    · exact (Passes.foldl Passes.closeStream _ is).cancelled (isCancelled_closeStream hch)
    · exact hcancelled hm

/-- The end of a task leaves the queues as they are, and cancels its live streams. -/
theorem queue_close (hch : b.streams[j]? = some ch) (taskId : String) :
    ∃ ch', (b.close taskId).streams[j]? = some ch' ∧ ch'.queue = ch.queue ∧
      (j ∈ b.liveStreams taskId → (b.close taskId).tokens.isCancelled ch.token = true) :=
  queue_closeStreams (b := b.withoutTask taskId) hch _

end Broker

namespace LocalTracker

/-- A watcher follows a stream that is live for its task, and in which some events are queued. -/
structure Subscribed (t : LocalTracker) (w : Nat) (v : Watcher) (j : Nat) (queue : List Event) :
    Prop where
  following : t.tracker.Following w v j queue
  uncancelled : t.tracker.source.tokens.isCancelled v.token = false
  live : j ∈ t.tracker.source.liveStreams v.taskId
  capacity : ∀ {ch}, t.tracker.source.streams[j]? = some ch →
    t.tracker.source.capacity ≤ ch.capacity

variable {t : LocalTracker} {w j : Nat} {v : Watcher} {queue : List Event}

namespace Subscribed

/-- The room for events stays as it is. -/
theorem capacity_turn (h : t.Subscribed w v j queue) (inOrder : t.InOrder) (r : Turn) {ch : Channel}
    (hch : (t.turn r).tracker.source.streams[j]? = some ch) :
    (t.turn r).tracker.source.capacity ≤ ch.capacity := by
  obtain ⟨ch₁, hch₁, -⟩ := h.following.stream
  obtain ⟨ch₂, hch₂, same⟩ := (inOrder.sound.moves r).stream hch₁
  obtain rfl : ch₂ = ch := Option.some.inj (hch₂.symm.trans hch)
  rw [InOrder.capacity_turn, same.capacity]
  exact h.capacity hch₁

/-- A watcher that is not rejected opens its stream. -/
theorem of_opening {s : CallState} (starts : t.tracker.Starts w v s)
    (hr : t.tracker.source.rejections.find? (·.1 == v.taskId) = none) :
    ∃ j, (t.turn (.poll w)).Subscribed w { v with stage := .following j } j [] ∧
      (t.turn (.poll w)).tracker.cells[v.cell]? = some s := by
  have hopen := Broker.watch_opened starts.uncancelled hr
  have hlength := (Broker.Passes.prune t.tracker.source).length
  obtain ⟨u, hpoll, hsource, -, hcells, hwatcher⟩ :=
    Tracker.poll_starting starts.watcher starts.stage hopen
  generalize hnew : Channel.new v.taskId t.tracker.source.prune.capacity v.token = new
  have hch : u.source.streams[t.tracker.source.streams.length]? = some new := by
    rw [hsource, Broker.streams_opened, ← hlength, hnew]
    exact List.getElem?_concat_length
  have hempty : new.Open := by
    subst hnew
    exact ⟨rfl, rfl, fun _ hm => absurd hm List.not_mem_nil⟩
  have hcell : u.cells[v.cell]? = some s := hcells ▸ starts.cell
  have huncancelled : u.source.tokens.isCancelled v.token = false := by
    rw [hsource, Broker.tokens_opened]
    exact (Broker.Passes.prune t.tracker.source).uncancelled starts.uncancelled
  have hquiet := Tracker.poll_quiet hwatcher rfl hcell hch hempty huncancelled
  have hturn : (t.turn (.poll w)).tracker = { u with
      cells := u.cells.set v.cell (s.fold u.catalog new.queue)
      source := u.source.setStream t.tracker.source.streams.length { new with queue := [] } } := by
    rw [← hquiet, ← hpoll]
    rfl
  refine ⟨t.tracker.source.streams.length, ⟨⟨?_, rfl, { new with queue := [] }, ?_, rfl⟩, ?_, ?_, ?_⟩,
    ?_⟩
  · rw [hturn]
    exact hwatcher
  · rw [hturn]
    exact List.getElem?_set_self (List.getElem?_eq_some_iff.1 hch).1
  · rw [hturn]
    exact huncancelled
  · rw [hturn]
    show _ ∈ u.source.liveStreams v.taskId
    rw [hsource]
    show _ ∈ (Broker.addLive _ _ _).liveStreams v.taskId
    rw [Broker.liveStreams_addLive, if_pos rfl, hlength]
    exact List.mem_append_right _ (List.mem_singleton_self _)
  · intro ch hch'
    rw [hturn] at hch' ⊢
    have hset := List.getElem?_set_self (a := ({ new with queue := [] } : Channel))
      (List.getElem?_eq_some_iff.1 hch).1
    obtain rfl := Option.some.inj (hset.symm.trans hch')
    show u.source.capacity ≤ new.capacity
    rw [hsource, ← hnew]
    exact Nat.le_trans (Nat.le_of_eq (Broker.Passes.addLive _ v.taskId _).capacity)
      (Nat.le_max_left _ 1)
  · rw [hturn, ← hnew]
    exact List.getElem?_set_self (List.getElem?_eq_some_iff.1 hcell).1

/-- The watcher takes what is queued. -/
theorem poll (h : t.Subscribed w v j queue) (inOrder : t.InOrder) {s : CallState}
    (hs : t.tracker.cells[v.cell]? = some s) :
    (t.turn (.poll w)).Subscribed w v j [] := by
  obtain ⟨ch, hch, rfl, hpoll⟩ :=
    h.following.poll_eq inOrder.sound.tracker.links h.uncancelled hs
  have hturn : (t.turn (.poll w)).tracker = { t.tracker with
      cells := t.tracker.cells.set v.cell (s.fold t.tracker.catalog ch.queue)
      source := t.tracker.source.setStream j { ch with queue := [] } } := by
    rw [← hpoll]
    rfl
  have following : (t.turn (.poll w)).tracker.Following w v j [] := by
    rw [hturn]
    exact ⟨h.following.watcher, h.following.stage, _,
      List.getElem?_set_self (List.getElem?_eq_some_iff.1 hch).1, rfl⟩
  refine ⟨following, ?_, ?_, h.capacity_turn inOrder _⟩
  · rw [hturn]
    exact h.uncancelled
  · rw [hturn]
    exact h.live

/-- An event that does not end the task is queued, if there is room for it. -/
theorem publish (h : t.Subscribed w v j queue) (inOrder : t.InOrder) {event : Event}
    (he : event.isTerminal = false) (hroom : queue.length < t.tracker.source.capacity) :
    (t.turn (.step (.publish v.taskId event))).Subscribed w v j (queue ++ [event]) := by
  obtain ⟨ch, hch, rfl, htoken, -⟩ := h.following.channel inOrder.sound.tracker.links
  have hands := inOrder.orderly.publication_hands he v.taskId
  have hroom' : ch.isFull = false := by
    rw [Channel.isFull, decide_eq_false_iff_not]
    have hcapacity := h.capacity hch
    omega
  have hhanded := hands.handed h.live hch (htoken ▸ h.uncancelled)
  have hqueued : ch.handed event = { ch with queue := ch.queue ++ [event] } := by
    rw [Channel.handed, hroom', if_neg Bool.false_ne_true]
  have hturn : (t.turn (.step (.publish v.taskId event))).tracker =
      { t.tracker with source := (t.tracker.source.publication v.taskId event).2 } := by
    show (t.publish v.taskId event).tracker = _
    rw [publish_eq]
    rfl
  refine ⟨⟨?_, h.following.stage, ch.handed event, ?_, ?_⟩, ?_, ?_, h.capacity_turn inOrder _⟩
  · rw [hturn]
    exact h.following.watcher
  · rw [hturn]
    exact hhanded
  · rw [hqueued]
  · rw [hturn]
    show (t.tracker.source.publication v.taskId event).2.tokens.isCancelled v.token = false
    rw [hands.tokens]
    exact h.uncancelled
  · rw [hturn]
    show j ∈ (t.tracker.source.publication v.taskId event).2.liveStreams v.taskId
    have hadded := (t.tracker.source.withoutTask v.taskId).liveStreams_addLive v.taskId v.taskId
      ((t.tracker.source.liveStreams v.taskId).filter
        (!(t.tracker.source.withoutTask v.taskId).streamCancelled ·))
    rw [if_pos rfl] at hadded
    rw [Broker.liveStreams_of_live hands.live]
    refine hadded ▸ List.mem_append_right _ (List.mem_filter.2 ⟨h.live, ?_⟩)
    rw [Broker.streamCancelled_eq (b := t.tracker.source.withoutTask v.taskId) hch]
    show (!t.tracker.source.tokens.isCancelled ch.token) = true
    rw [htoken, h.uncancelled]
    rfl

/-- A terminal event is queued as the last one, or its publication waits. -/
theorem publish_last (h : t.Subscribed w v j queue) (inOrder : t.InOrder) {event : Event}
    (hlast : event.isTerminal = true) :
    (t.turn (.step (.publish v.taskId event))).Waiting t.publications.length w v j event queue ∨
      (t.turn (.step (.publish v.taskId event))).Arrived w v j event queue := by
  obtain ⟨ch, hch, hcame⟩ := inOrder.sound.start h.following.watcher h.following.stage h.live
    h.uncancelled hlast
  obtain ⟨ch', hch', rfl⟩ := h.following.stream
  obtain rfl : ch' = ch := Option.some.inj (hch'.symm.trans hch)
  exact hcame

/-- When the task is closed, what is queued stays, and nothing more comes. -/
theorem close (h : t.Subscribed w v j queue) (inOrder : t.InOrder) :
    (t.turn (.step (.close v.taskId))).Settled w v j queue ∧
      (t.turn (.step (.close v.taskId))).tracker.source.tokens.isCancelled v.token = true := by
  obtain ⟨ch, hch, rfl, htoken, -⟩ := h.following.channel inOrder.sound.tracker.links
  obtain ⟨ch', hch', hqueue, hcancelled⟩ := Broker.queue_close hch v.taskId
  rw [htoken] at hcancelled
  refine ⟨⟨⟨h.following.watcher, h.following.stage, ch', hch', hqueue⟩, fun hm => ?_⟩,
    hcancelled h.live⟩
  have hnodup := inOrder.orderly.filed.nodup
  rw [List.nodup_append] at hnodup
  obtain ⟨hheld, -, hdisjoint⟩ := hnodup
  obtain hm | hm := List.mem_append.1 hm
  · -- The streams of the task are live nowhere else.
    obtain ⟨l, hperm, hsub⟩ := t.tracker.source.held_withoutTask v.taskId
    have htaken := hperm.nodup_iff.1 (hheld.sublist hsub)
    have hm : j ∈ (t.tracker.source.close v.taskId).held := hm
    rw [Broker.held, Broker.live_close] at hm
    exact (List.nodup_append.1 htaken).2.2 j h.live j hm rfl
  · exact hdisjoint j (Broker.mem_held h.live) j hm rfl

/-- Whatever else happens, as long as the call goes on to hold the token of the watcher. -/
theorem other (h : t.Subscribed w v j queue) (inOrder : t.InOrder) {r : Turn} (hpoll : r ≠ .poll w)
    (hfeeds : r.feeds v.taskId = false)
    (hholds : (t.turn r).tracker.HoldsToken v.cell v.token) :
    (t.turn r).Subscribed w v j queue := by
  have links := inOrder.sound.tracker.links
  obtain ⟨ch, hch, -, htoken, -⟩ := h.following.channel links
  have going : (t.turn r).tracker.Following w v j queue ∧
      (t.turn r).tracker.source.tokens.isCancelled v.token = false := by
    obtain ⟨s, rfl⟩ | ⟨-, b, htracker, hpass⟩ := t.turn_cases r
    · have hactor := actor_ne hpoll
      have hissued := inOrder.proper.guarded.armed.issued v
        (List.mem_of_getElem? h.following.watcher)
      have hcaller ha :=
        inOrder.proper.guarded.uncancelled_caller (s := s) ha hholds hissued h.uncancelled
      exact ⟨h.following.step inOrder.sound.tracker s hactor,
        h.following.uncancelled_step inOrder.sound.tracker hactor hcaller h.uncancelled⟩
    · have hnot := inOrder.not_touched h.live hfeeds
      rw [htracker]
      exact ⟨h.following.source hpass hnot,
        h.following.uncancelled_source links hpass hnot h.uncancelled⟩
  refine ⟨going.1, going.2, ?_, h.capacity_turn inOrder r⟩
  exact inOrder.live hch h.live hfeeds (htoken ▸ going.2)

end Subscribed

end LocalTracker

end TaskWatch
