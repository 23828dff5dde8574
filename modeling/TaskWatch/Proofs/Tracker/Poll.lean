import TaskWatch.Proofs.Tracker.Linked
import TaskWatch.Proofs.Tracker.Receipt

/-!
# What a poll of a watcher does

A watcher that follows a stream of a broker folds everything that is queued there into its cell. It
waits for more (`poll_quiet`), unless the last event of the watch is among it: then the call is done,
and the watcher lets its stream go and finishes (`poll_closing`).
-/

namespace TaskWatch.Tracker

variable {t : Tracker Broker} {w j : Nat} {v : Watcher} {s : CallState} {ch : Channel}

theorem takeEvents_stream (hch : t.source.streams[j]? = some ch) :
    WatchSource.takeEvents t.source j =
      (ch.queue, ch.hasSink, t.source.setStream j { ch with queue := [] }) := by
  show Broker.takeEvents t.source j = _
  rw [Broker.takeEvents, Broker.stream?, hch]

/-- While its stream is open, a watcher folds what is queued and waits for more. -/
theorem poll_quiet (hw : t.watchers[w]? = some v) (hstage : v.stage = .following j)
    (hs : t.cells[v.cell]? = some s) (hch : t.source.streams[j]? = some ch) (hopen : ch.Open)
    (htoken : t.source.tokens.isCancelled v.token = false) :
    t.poll w = { t with
      cells := t.cells.set v.cell (s.fold t.catalog ch.queue)
      source := t.source.setStream j { ch with queue := [] } } := by
  have htake : WatchSource.takeEvents t.source j =
      (ch.queue, true, t.source.setStream j { ch with queue := [] }) := by
    rw [takeEvents_stream hch, ← hopen.hasSink]
  have hquiet := any_eq_false_iff.2 hopen.queue
  rw [poll_waiting hw hstage hs htake hquiet htoken, CallState.received_of_quiet s t.catalog hquiet]

/-- When the last event of the watch is queued, the watcher folds it after all others, the call is
done, and the watcher finishes. -/
theorem poll_closing (hw : t.watchers[w]? = some v) (hstage : v.stage = .following j)
    (hs : t.cells[v.cell]? = some s) (hch : t.source.streams[j]? = some ch)
    {events : List Event} {event : Event} (hqueue : ch.queue = events ++ [event])
    (hquiet : ∀ e ∈ events, e.isTerminal = false) (hlast : event.isTerminal = true) :
    (t.poll w).cells = t.cells.set v.cell (s.fold t.catalog ch.queue).ended.unwatched ∧
      (t.poll w).watchers = t.watchers.set w { v with stage := .finished } ∧
      (t.poll w).source.tokens.isCancelled ch.token = true := by
  have hquiet := any_eq_false_iff.2 hquiet
  have hterminal : ch.queue.any Event.isTerminal = true := by
    rw [hqueue, List.any_append, List.any_cons, hlast, Bool.true_or, Bool.or_true]
  have hreceived : s.received t.catalog ch.queue = (s.fold t.catalog ch.queue).ended := by
    rw [CallState.received, if_pos hterminal, hqueue, throughTerminal_append,
      if_neg (Bool.eq_false_iff.1 hquiet), throughTerminal, if_pos hlast]
  obtain ⟨hcells, hwatchers, last, hsource, hreleased⟩ :=
    poll_finishing hw hstage hs (takeEvents_stream hch) (.inl hterminal)
  refine ⟨by rw [hcells, hreceived], hwatchers, ?_⟩
  have hstream : last.streams[j]? = some { ch with queue := [] } := by
    have hset := List.getElem?_set_self (a := ({ ch with queue := [] } : Channel))
      (List.getElem?_eq_some_iff.1 hch).1
    obtain rfl | ⟨tokens, rfl⟩ := hsource
    · exact hset
    · exact hset
  have hcancelled := Broker.isCancelled_dropStream hstream
  rw [hreleased]
  exact hcancelled

end TaskWatch.Tracker
