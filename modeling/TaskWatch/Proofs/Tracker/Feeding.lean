import TaskWatch.Proofs.Tracker.Spared
import TaskWatch.Proofs.Tracker.Subscribed

/-!
# Feeding a watcher in the same process

A watcher is fed some events when it has opened its stream, the events are published for its task, and
the task is closed (`LocalTracker.Fed`). In between the watcher is polled now and then, and whatever
else happens to other calls and tasks. As long as there is room for all of the events, none of them is
lost: they are folded into the call or still on their way (`LocalTracker.Come`), and when the watcher
is polled after the last of them has come, it has finished, and its call has received the events
(`Fed.received`).
-/

namespace TaskWatch.LocalTracker

/-- How far a watcher has been fed. -/
inductive Feeding where
  /-- Its stream is not open yet. -/
  | unopened
  /-- Events are published for its task. -/
  | opened
  /-- The task was closed. -/
  | closed
  deriving DecidableEq

/-- The caller does not change a cell in a turn. -/
def SparesCell (t : LocalTracker) (i : Nat) (r : Turn) : Prop :=
  ∀ s, r = .step (.tracker s) → t.tracker.SparesCell i s

/-- A watcher that was about to start has been fed some events: it opened its stream, the events were
published for its task, and then the task was closed. Anything else may have happened in between, as
long as nothing else was published for the task while the stream was open, and the caller did not
change the call. -/
inductive Fed (w : Nat) (v : Watcher) (start : LocalTracker) :
    Feeding → List Event → LocalTracker → Prop
  | start : Fed w v start .unopened [] start
  | opening {t : LocalTracker} (h : Fed w v start .unopened [] t)
      (hr : t.tracker.source.rejections.find? (·.1 == v.taskId) = none) :
      Fed w v start .opened [] (t.turn (.poll w))
  | publish {t : LocalTracker} {events : List Event} (event : Event)
      (h : Fed w v start .opened events t) :
      Fed w v start .opened (events ++ [event]) (t.turn (.step (.publish v.taskId event)))
  | close {t : LocalTracker} {events : List Event} (h : Fed w v start .opened events t) :
      Fed w v start .closed events (t.turn (.step (.close v.taskId)))
  | poll {t : LocalTracker} {stage : Feeding} {events : List Event} (h : Fed w v start stage events t)
      (hstage : stage ≠ .unopened) : Fed w v start stage events (t.turn (.poll w))
  | other {t : LocalTracker} {stage : Feeding} {events : List Event} {r : Turn}
      (h : Fed w v start stage events t) (hpoll : r ≠ .poll w)
      (hfeeds : stage = .opened → r.feeds v.taskId = false) (hspares : t.SparesCell v.cell r) :
      Fed w v start stage events (t.turn r)

/-- A cell holds a state that some events have led to, none of them terminal. -/
structure Reads (t : LocalTracker) (i : Nat) (s : CallState) (catalog : Catalog)
    (folded : List Event) : Prop where
  hcatalog : t.tracker.catalog = catalog
  cell : t.tracker.cells[i]? = some (s.fold catalog folded)
  quiet : folded.any Event.isTerminal = false

/-- The watch of a watcher that was fed some events is over, or will be when the watcher has folded
what is on its way. -/
inductive Ending (w : Nat) (v : Watcher) (s : CallState) (catalog : Catalog) (events : List Event)
    (t : LocalTracker) : Prop
  /-- The publication of the last event waits. -/
  | waiting {p j : Nat} {event : Event} {folded queue : List Event}
      (waiting : t.Waiting p w { v with stage := .following j } j event queue)
      (reads : t.Reads v.cell s catalog folded)
      (hevents : folded ++ (queue ++ [event]) = throughTerminal events)
      (hlast : event.isTerminal = true)
  | settled {j : Nat} {folded queue : List Event}
      (settled : t.Settled w { v with stage := .following j } j queue)
      (reads : t.Reads v.cell s catalog folded)
      (hevents : folded ++ queue = throughTerminal events)
      (hlast : events.any Event.isTerminal = true ∨
        t.tracker.source.tokens.isCancelled v.token = true)
  | finished (received : t.tracker.Received w v s catalog events)

/-- What has become of the events that a watcher was fed. -/
inductive Come (w : Nat) (v : Watcher) (s : CallState) (catalog : Catalog) :
    Feeding → List Event → LocalTracker → Prop
  | waiting {t : LocalTracker} (hcatalog : t.tracker.catalog = catalog)
      (starts : t.tracker.Starts w v s) : Come w v s catalog .unopened [] t
  | reading {t : LocalTracker} {j : Nat} {folded queue : List Event}
      (subscribed : t.Subscribed w { v with stage := .following j } j queue)
      (reads : t.Reads v.cell s catalog folded) (quiet : queue.any Event.isTerminal = false) :
      Come w v s catalog .opened (folded ++ queue) t
  | ending {t : LocalTracker} {stage : Feeding} {events : List Event}
      (ending : Ending w v s catalog events t)
      (hstage : stage = .closed ∨ stage = .opened ∧ events.any Event.isTerminal = true) :
      Come w v s catalog stage events t

variable {start t : LocalTracker} {w j : Nat} {v : Watcher} {s : CallState} {catalog : Catalog}
  {stage : Feeding} {events folded queue : List Event} {r : Turn}

/-! ## What others leave alone -/

theorem catalog_turn (t : LocalTracker) (r : Turn) :
    (t.turn r).tracker.catalog = t.tracker.catalog := by
  obtain ⟨s, rfl⟩ | ⟨-, b, htracker, -⟩ := t.turn_cases r
  · exact t.tracker.catalog_step s
  · rw [htracker]

theorem catalog_turns (t : LocalTracker) (rs : List Turn) :
    (t.turns rs).tracker.catalog = t.tracker.catalog := by
  induction rs generalizing t with
  | nil => rfl
  | cons r rs ih => exact (ih (t.turn r)).trans (t.catalog_turn r)

/-- A cell stays as it is until its watcher is polled or the caller changes it. -/
theorem InOrder.cell_turn (inOrder : t.InOrder) (hw : t.tracker.watchers[w]? = some v)
    (hs : t.tracker.cells[v.cell]? = some s) (hrunning : v.stage ≠ .finished ∨ s.watching = false)
    (hpoll : r ≠ .poll w) (hspares : t.SparesCell v.cell r) :
    (t.turn r).tracker.cells[v.cell]? = some s := by
  obtain ⟨step, rfl⟩ | ⟨-, b, htracker, -⟩ := t.turn_cases r
  · exact inOrder.proper.guarded.kept.cell_step hw hs hrunning (actor_ne hpoll) (hspares step rfl)
  · rw [htracker]
    exact hs

/-- A watcher that is about to start stays so until it is polled. -/
theorem starts_turn (starts : t.tracker.Starts w v s) (inOrder : t.InOrder) (hpoll : r ≠ .poll w)
    (hspares : t.SparesCell v.cell r) : (t.turn r).tracker.Starts w v s := by
  obtain ⟨step, rfl⟩ | ⟨-, b, htracker, hpass⟩ := t.turn_cases r
  · exact starts.step inOrder.proper (actor_ne hpoll) (hspares step rfl)
  · have hnot := inOrder.proper.owned.not_owned starts.watcher starts.stage
    rw [htracker]
    exact { starts with uncancelled := hpass.cancelsOnly.uncancelled hnot starts.uncancelled }

namespace Reads

/-- What has been folded stays folded. -/
theorem turn (reads : t.Reads v.cell s catalog folded) (inOrder : t.InOrder)
    (hw : t.tracker.watchers[w]? = some { v with stage := .following j }) (hpoll : r ≠ .poll w)
    (hspares : t.SparesCell v.cell r) : (t.turn r).Reads v.cell s catalog folded := by
  have hcell := inOrder.cell_turn hw reads.cell (.inl nofun) hpoll hspares
  exact ⟨(t.catalog_turn r).trans reads.hcatalog, hcell, reads.quiet⟩

/-- While its watcher follows a stream, a cell holds the token of the watcher, or the watcher is
cancelled. -/
theorem holdsToken (reads : t.Reads v.cell s catalog folded) (inOrder : t.InOrder)
    (hw : t.tracker.watchers[w]? = some { v with stage := .following j })
    (hu : t.tracker.source.tokens.isCancelled v.token = false) :
    (s.fold catalog folded).token = some v.token := by
  have hheld := inOrder.proper.guarded.armed.running _ (List.mem_of_getElem? hw) nofun reads.cell
  exact hheld.resolve_right (Bool.eq_false_iff.1 hu)

/-- The watcher folds what is queued. -/
theorem poll (reads : t.Reads v.cell s catalog folded) (inOrder : t.InOrder)
    (following : t.tracker.Following w { v with stage := .following j } j queue)
    (hu : t.tracker.source.tokens.isCancelled v.token = false) :
    (t.turn (.poll w)).Reads v.cell s catalog (folded ++ queue) := by
  have links := inOrder.sound.tracker.links
  obtain ⟨ch, -, -, hpoll⟩ := following.poll_eq links hu reads.cell
  have hquiet := any_eq_false_iff.2 (quiet_of_uncancelled following links hu)
  refine ⟨(t.catalog_turn _).trans reads.hcatalog, ?_, ?_⟩
  · show (t.tracker.poll w).cells[v.cell]? = _
    rw [hpoll, CallState.fold_append, ← reads.hcatalog]
    exact List.getElem?_set_self (List.getElem?_eq_some_iff.1 reads.cell).1
  · rw [List.any_append, reads.quiet, hquiet]
    rfl

/-- The watcher folds what is queued and finishes, once there was a terminal event or it was
cancelled. -/
theorem finish (reads : t.Reads v.cell s catalog folded)
    (following : t.tracker.Following w { v with stage := .following j } j queue)
    (hevents : folded ++ queue = throughTerminal events)
    (hlast : events.any Event.isTerminal = true ∨
      t.tracker.source.tokens.isCancelled v.token = true) :
    (t.turn (.poll w)).tracker.Received w v s catalog events := by
  obtain ⟨ch, hch, rfl⟩ := following.stream
  have hterminal : ch.queue.any Event.isTerminal = events.any Event.isTerminal := by
    rw [← any_throughTerminal events, ← hevents, List.any_append, reads.quiet, Bool.false_or]
  have hstop : ch.queue.any Event.isTerminal = true ∨ ch.hasSink = false ∨
      t.tracker.source.tokens.isCancelled v.token = true := by
    rw [hterminal]
    exact hlast.imp_right .inr
  have hcell := reads.cell
  rw [← reads.hcatalog] at hcell
  have received := Tracker.poll_received following.watcher following.stage hcell reads.quiet
    (Tracker.takeEvents_stream hch) hstop
  refine ⟨received.watcher, received.cell.trans ?_⟩
  rw [hevents, CallState.received_throughTerminal, reads.hcatalog]

end Reads

/-- The poll of a watcher is no step of the caller. -/
theorem sparesCell_poll (t : LocalTracker) (w i : Nat) : t.SparesCell i (.poll w) := by
  intro step e
  obtain rfl := Step.tracker.inj (Turn.step.inj e)
  nofun

theorem received_turn (received : t.tracker.Received w v s catalog events) (inOrder : t.InOrder)
    (hspares : t.SparesCell v.cell r) : (t.turn r).tracker.Received w v s catalog events := by
  obtain ⟨step, rfl⟩ | ⟨-, b, htracker, -⟩ := t.turn_cases r
  · exact received.step inOrder.proper.guarded.kept (hspares step rfl)
  · rw [htracker]
    exact ⟨received.watcher, received.cell⟩

/-- What is cancelled stays cancelled. -/
theorem cancelled_turn (t : LocalTracker) (r : Turn) {token : Token}
    (hc : t.tracker.source.tokens.isCancelled token = true) :
    (t.turn r).tracker.source.tokens.isCancelled token = true := by
  obtain ⟨step, rfl⟩ | ⟨-, b, htracker, hpass⟩ := t.turn_cases r
  · exact (Tracker.Watches.of_step t.tracker step).tokens.cancelled hc
  · rw [htracker]
    exact hpass.cancelled hc

/-! ## The end of the watch -/

theorem any_of_throughTerminal {event : Event}
    (hevents : folded ++ (queue ++ [event]) = throughTerminal events)
    (hlast : event.isTerminal = true) : events.any Event.isTerminal = true := by
  rw [← any_throughTerminal, ← hevents, ← List.append_assoc, List.any_append]
  simp [hlast]

namespace Ending

/-- Whatever else happens. -/
theorem other (h : Ending w v s catalog events t) (inOrder : t.InOrder) (hpoll : r ≠ .poll w)
    (hspares : t.SparesCell v.cell r) : Ending w v s catalog events (t.turn r) := by
  cases h with
  | @waiting p j event folded queue waiting reads hevents hlast =>
    have hw := waiting.following.watcher
    have reads' := reads.turn inOrder hw hpoll hspares
    by_cases hr : r.goesOn = some p
    · obtain came | came := waiting.goesOn inOrder.sound hlast hr
      · exact .waiting came reads' hevents hlast
      · exact .settled came.toSettled reads' hevents (.inl (any_of_throughTerminal hevents hlast))
    · refine .waiting (waiting.other inOrder.sound hpoll hr fun step e ha => ?_) reads' hevents hlast
      subst e
      have htoken := reads.holdsToken inOrder hw waiting.uncancelled
      exact inOrder.proper.guarded.uncancelled_caller ha ⟨_, reads'.cell, htoken⟩
        (inOrder.proper.guarded.armed.issued _ (List.mem_of_getElem? hw)) waiting.uncancelled
  | settled settled reads hevents hlast =>
    exact .settled (settled.other inOrder.sound hpoll)
      (reads.turn inOrder settled.following.watcher hpoll hspares) hevents
      (hlast.imp_right (t.cancelled_turn r))
  | finished received => exact .finished (received_turn received inOrder hspares)

/-- The watcher folds what has come, and finishes unless it waits for the last event. -/
theorem poll (h : Ending w v s catalog events t) (inOrder : t.InOrder) :
    Ending w v s catalog events (t.turn (.poll w)) := by
  cases h with
  | @waiting p j event folded queue waiting reads hevents hlast =>
    have reads' := reads.poll inOrder waiting.following waiting.uncancelled
    refine .waiting (waiting.poll inOrder.sound).2 reads' ?_ hlast
    rw [List.nil_append, List.append_assoc, hevents]
  | settled settled reads hevents hlast =>
    exact .finished (reads.finish settled.following hevents hlast)
  | finished received => exact .finished (received_turn received inOrder (t.sparesCell_poll w v.cell))

/-- Nothing more counts once there was a terminal event. -/
theorem more (h : Ending w v s catalog events t) (hlast : events.any Event.isTerminal = true)
    (event : Event) : Ending w v s catalog (events ++ [event]) t := by
  have hsame : throughTerminal events = throughTerminal (events ++ [event]) := by
    rw [throughTerminal_append, if_pos hlast]
  have hlast' : (events ++ [event]).any Event.isTerminal = true := by
    rw [List.any_append, hlast, Bool.true_or]
  cases h with
  | waiting waiting reads hevents hterminal =>
    exact .waiting waiting reads (hevents.trans hsame) hterminal
  | settled settled reads hevents => exact .settled settled reads (hevents.trans hsame) (.inl hlast')
  | finished received =>
    refine .finished ⟨received.watcher, received.cell.trans ?_⟩
    rw [CallState.received_append s catalog hlast]

/-- When no publication has yet to come to its stream, the watcher has finished once it is polled. -/
theorem received (h : Ending w v s catalog events t) (inOrder : t.InOrder)
    (hpast : ∀ {p j}, t.tracker.watchers[w]? = some { v with stage := .following j } →
      ¬t.Awaits p j) : (t.turn (.poll w)).tracker.Received w v s catalog events := by
  cases h with
  | waiting waiting reads hevents hlast =>
    obtain ⟨q, hq, hmem, -⟩ := waiting.awaits
    exact absurd ⟨q, hq, hmem⟩ (hpast waiting.following.watcher)
  | settled settled reads hevents hlast => exact reads.finish settled.following hevents hlast
  | finished received => exact received_turn received inOrder (t.sparesCell_poll w v.cell)

end Ending

/-! ## One turn -/

namespace Come

/-- The watcher opens its stream. -/
theorem opening (h : Come w v s catalog .unopened [] t)
    (hr : t.tracker.source.rejections.find? (·.1 == v.taskId) = none) :
    Come w v s catalog .opened [] (t.turn (.poll w)) := by
  cases h with
  | waiting hcatalog starts =>
    obtain ⟨j, subscribed, hcell⟩ := Subscribed.of_opening starts hr
    have reads : (t.turn (.poll w)).Reads v.cell s catalog [] :=
      ⟨(t.catalog_turn _).trans hcatalog, hcell, rfl⟩
    exact .reading subscribed reads rfl
  | ending _ hstage =>
    obtain hstage | ⟨hstage, -⟩ := hstage
    · cases hstage
    · cases hstage

/-- An event is published. -/
theorem publish (h : Come w v s catalog .opened events t) (inOrder : t.InOrder) {event : Event}
    (hroom : events.length < t.tracker.source.capacity) :
    Come w v s catalog .opened (events ++ [event])
      (t.turn (.step (.publish v.taskId event))) := by
  cases h with
  | @reading _ j folded queue subscribed reads quiet =>
    have reads' := reads.turn inOrder subscribed.following.watcher
      (r := .step (.publish v.taskId event)) nofun nofun
    cases hlast : event.isTerminal with
    | false =>
      rw [List.length_append] at hroom
      have hqueue : queue.length < t.tracker.source.capacity := by omega
      have quiet' : (queue ++ [event]).any Event.isTerminal = false := by
        rw [List.any_append, quiet]
        simp [hlast]
      rw [List.append_assoc]
      exact .reading (subscribed.publish inOrder hlast hqueue) reads' quiet'
    | true =>
      have hevents : folded ++ (queue ++ [event]) = throughTerminal (folded ++ queue ++ [event]) := by
        rw [throughTerminal_append, List.any_append, reads.quiet, quiet, Bool.or_false,
          if_neg Bool.false_ne_true, throughTerminal, hlast, if_pos rfl, List.append_assoc]
      have hany := any_of_throughTerminal hevents hlast
      obtain came | came := subscribed.publish_last inOrder hlast
      · exact .ending (.waiting came reads' hevents hlast) (.inr ⟨rfl, hany⟩)
      · exact .ending (.settled came.toSettled reads' hevents (.inl hany)) (.inr ⟨rfl, hany⟩)
  | ending ends hstage =>
    have hany : events.any Event.isTerminal = true := by simpa using hstage
    have ends' := ends.other inOrder (r := .step (.publish v.taskId event)) nofun nofun
    refine .ending (ends'.more hany event) (.inr ⟨rfl, ?_⟩)
    rw [List.any_append, hany, Bool.true_or]

/-- The task is closed. -/
theorem close (h : Come w v s catalog .opened events t) (inOrder : t.InOrder) :
    Come w v s catalog .closed events (t.turn (.step (.close v.taskId))) := by
  refine .ending ?_ (.inl rfl)
  cases h with
  | @reading _ j folded queue subscribed reads quiet =>
    have reads' := reads.turn inOrder subscribed.following.watcher
      (r := .step (.close v.taskId)) nofun nofun
    have hevents : folded ++ queue = throughTerminal (folded ++ queue) := by
      refine (throughTerminal_of_quiet (any_eq_false_iff.1 ?_)).symm
      rw [List.any_append, reads.quiet, quiet, Bool.or_false]
    obtain ⟨settled, hcancelled⟩ := subscribed.close inOrder
    exact .settled settled reads' hevents (.inr hcancelled)
  | ending ends => exact ends.other inOrder nofun nofun

/-- The watcher is polled. -/
theorem poll (h : Come w v s catalog stage events t) (inOrder : t.InOrder)
    (hstage : stage ≠ .unopened) : Come w v s catalog stage events (t.turn (.poll w)) := by
  cases h with
  | waiting => exact absurd rfl hstage
  | @reading _ j folded queue subscribed reads quiet =>
    have reads' := reads.poll inOrder subscribed.following subscribed.uncancelled
    rw [← List.append_nil (folded ++ queue)]
    exact .reading (subscribed.poll inOrder reads.cell) reads' rfl
  | ending ends hends => exact .ending (ends.poll inOrder) hends

/-- Whatever else happens. -/
theorem other (h : Come w v s catalog stage events t) (inOrder : t.InOrder) (hpoll : r ≠ .poll w)
    (hfeeds : stage = .opened → r.feeds v.taskId = false) (hspares : t.SparesCell v.cell r) :
    Come w v s catalog stage events (t.turn r) := by
  cases h with
  | waiting hcatalog starts =>
    exact .waiting ((t.catalog_turn r).trans hcatalog) (starts_turn starts inOrder hpoll hspares)
  | reading subscribed reads quiet =>
    have hw := subscribed.following.watcher
    have htoken := reads.holdsToken inOrder hw subscribed.uncancelled
    have reads' := reads.turn inOrder hw hpoll hspares
    exact .reading (subscribed.other inOrder hpoll (hfeeds rfl) ⟨_, reads'.cell, htoken⟩) reads' quiet
  | ending ends hends => exact .ending (ends.other inOrder hpoll hspares) hends

end Come

/-! ## Being fed -/

namespace Fed

/-- What every turn keeps is kept while a watcher is fed. -/
theorem keeps {P : LocalTracker → Prop} (hturn : ∀ {t} r, P t → P (t.turn r))
    (h : Fed w v start stage events t) (hstart : P start) : P t := by
  induction h with
  | start => exact hstart
  | opening _ _ ih | publish _ _ ih | close _ ih | poll _ _ ih | other _ _ _ _ ih => exact hturn _ ih

theorem capacity (h : Fed w v start stage events t) :
    t.tracker.source.capacity = start.tracker.source.capacity :=
  h.keeps (P := fun t => t.tracker.source.capacity = start.tracker.source.capacity)
    (fun {t} r h => (InOrder.capacity_turn t r).trans h) rfl

/-- None of the events that a watcher was fed is lost, if there is room for all of them. -/
theorem come (h : Fed w v start stage events t) (inOrder : start.InOrder)
    (starts : start.tracker.Starts w v s)
    (hroom : events.length ≤ start.tracker.source.capacity) :
    Come w v s start.tracker.catalog stage events t := by
  have turned : ∀ {t : LocalTracker} r, t.InOrder → (t.turn r).InOrder := fun r h => h.turn r
  induction h with
  | start => exact .waiting rfl starts
  | opening h hr ih => exact (ih hroom).opening hr
  | publish event h ih =>
    rw [List.length_append, List.length_singleton] at hroom
    exact (ih (Nat.le_of_succ_le hroom)).publish (h.keeps turned inOrder) (h.capacity ▸ hroom)
  | close h ih => exact (ih hroom).close (h.keeps turned inOrder)
  | poll h hstage ih => exact (ih hroom).poll (h.keeps turned inOrder) hstage
  | other h hpoll hfeeds hspares ih =>
    exact (ih hroom).other (h.keeps turned inOrder) hpoll hfeeds hspares

/-- A watcher that was fed some events, none of which is on its way any more, has finished once it is
polled, and its call has received the events. -/
theorem received (h : Fed w v start .closed events t) (inOrder : start.InOrder)
    (starts : start.tracker.Starts w v s) (hroom : events.length ≤ start.tracker.source.capacity)
    (hpast : ∀ {p j}, t.tracker.watchers[w]? = some { v with stage := .following j } →
      ¬t.Awaits p j) :
    (t.turn (.poll w)).tracker.Received w v s start.tracker.catalog events := by
  cases h.come inOrder starts hroom with
  | ending ends => exact ends.received (h.keeps (fun r h => h.turn r) inOrder) hpast

end Fed

end TaskWatch.LocalTracker
