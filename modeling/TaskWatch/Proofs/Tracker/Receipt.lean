import TaskWatch.Proofs.Call.Closing
import TaskWatch.Proofs.Client.Feed
import TaskWatch.Proofs.Tracker.Kept

/-!
# What a watcher makes of what it takes

A watcher that takes some events off its stream folds them into its cell up to the first terminal
one, which ends the call (`CallState.received`). Whatever the source of its watch, it finishes when
there was a terminal event, when no more events can come or when it was cancelled
(`Tracker.poll_finishing`), and waits for more otherwise (`Tracker.poll_waiting`). When its stream
cannot be opened, it finishes at once (`Tracker.poll_failing`).
-/

namespace TaskWatch

/-! ## Up to the first terminal event -/

theorem throughTerminal_of_quiet {events : List Event} (h : ∀ e ∈ events, e.isTerminal = false) :
    throughTerminal events = events := by
  induction events with
  | nil => rfl
  | cons e rest ih =>
    have hfirst := h e List.mem_cons_self
    have hrest := ih fun e' he' => h e' (List.mem_cons_of_mem e he')
    rw [throughTerminal, if_neg (Bool.eq_false_iff.1 hfirst), hrest]

theorem any_eq_false_iff {events : List Event} :
    events.any Event.isTerminal = false ↔ ∀ e ∈ events, e.isTerminal = false := by
  simp only [List.any_eq_false, Bool.not_eq_true]

/-- What is behind a terminal event does not count. -/
theorem throughTerminal_append (events more : List Event) :
    throughTerminal (events ++ more) =
      if events.any Event.isTerminal then throughTerminal events
      else events ++ throughTerminal more := by
  induction events with
  | nil => rfl
  | cons e rest ih =>
    rw [List.cons_append, throughTerminal, List.any_cons, throughTerminal]
    cases e.isTerminal with
    | true => rfl
    | false =>
      rw [if_neg Bool.false_ne_true, if_neg Bool.false_ne_true, ih, Bool.false_or]
      split <;> rfl

theorem any_throughTerminal (events : List Event) :
    (throughTerminal events).any Event.isTerminal = events.any Event.isTerminal := by
  induction events with
  | nil => rfl
  | cons e rest ih =>
    rw [throughTerminal]
    cases he : e.isTerminal with
    | true => simp [he]
    | false => simp [he, ih]

theorem throughTerminal_throughTerminal (events : List Event) :
    throughTerminal (throughTerminal events) = throughTerminal events := by
  induction events with
  | nil => rfl
  | cons e rest ih =>
    rw [throughTerminal]
    cases he : e.isTerminal with
    | true => simp [throughTerminal, he]
    | false => simp [throughTerminal, he, ih]

namespace CallState

/-- The call after its watcher took some events: they are folded up to the first terminal one, which
ends the call. -/
def received (s : CallState) (catalog : Catalog) (events : List Event) : CallState :=
  if events.any Event.isTerminal then (s.fold catalog (throughTerminal events)).ended
  else s.fold catalog (throughTerminal events)

theorem received_of_quiet (s : CallState) (catalog : Catalog) {events : List Event}
    (h : events.any Event.isTerminal = false) :
    s.received catalog events = s.fold catalog events := by
  rw [received, if_neg (Bool.eq_false_iff.1 h), throughTerminal_of_quiet (any_eq_false_iff.1 h)]

/-- What is behind the first terminal event is not missed. -/
theorem received_throughTerminal (s : CallState) (catalog : Catalog) (events : List Event) :
    s.received catalog (throughTerminal events) = s.received catalog events := by
  rw [received, received, any_throughTerminal, throughTerminal_throughTerminal]

/-- Nothing is received behind a terminal event. -/
theorem received_append (s : CallState) (catalog : Catalog) {events : List Event}
    (h : events.any Event.isTerminal = true) (more : List Event) :
    s.received catalog (events ++ more) = s.received catalog events := by
  rw [received, received, List.any_append, h, Bool.true_or, throughTerminal_append, if_pos h]

/-- Events that end nothing may be taken beforehand. -/
theorem received_fold (s : CallState) (catalog : Catalog) {folded : List Event}
    (h : folded.any Event.isTerminal = false) (queue : List Event) :
    (s.fold catalog folded).received catalog queue = s.received catalog (folded ++ queue) := by
  rw [received, received, List.any_append, h, Bool.false_or, throughTerminal_append, h,
    if_neg Bool.false_ne_true, fold_append]

end CallState

namespace Tracker

variable {σ : Type}

theorem setCell_self {t : Tracker σ} {i : Nat} {s : CallState} (hs : t.cells[i]? = some s) :
    t.setCell i s = t := by
  obtain ⟨hlt, rfl⟩ := List.getElem?_eq_some_iff.1 hs
  rw [setCell, List.set_getElem_self]

theorem getElem?_setCell {t : Tracker σ} {i : Nat} {s : CallState} (hs : t.cells[i]? = some s)
    (s' : CallState) : (t.setCell i s').cells[i]? = some s' :=
  List.getElem?_set_self (List.getElem?_eq_some_iff.1 hs).1

theorem setCell_setCell (t : Tracker σ) (i : Nat) (s s' : CallState) :
    (t.setCell i s).setCell i s' = t.setCell i s' := by
  rw [setCell, setCell, setCell, List.set_set]

variable [WatchSource σ]

/-- Events are folded up to the first terminal one, which ends the call. -/
theorem foldEvents_eq {t : Tracker σ} {i : Nat} {s : CallState} (hs : t.cells[i]? = some s)
    (events : List Event) : t.foldEvents i events =
      if events.any Event.isTerminal then
        (true, (t.setCell i (s.fold t.catalog (throughTerminal events))).markDone i)
      else (false, t.setCell i (s.fold t.catalog (throughTerminal events))) := by
  induction events generalizing t s with
  | nil =>
    show (false, t) = (false, t.setCell i s)
    rw [setCell_self hs]
  | cons event rest ih =>
    have hfirst := s.applyEvent_terminal t.catalog event
    have hrest := ih (getElem?_setCell hs (s.applyEvent t.catalog event).2)
    rw [setCell_setCell] at hrest
    rw [foldEvents, hs, List.any_cons, throughTerminal]
    dsimp only
    rw [hfirst]
    cases event.isTerminal with
    | true => rfl
    | false =>
      rw [if_neg Bool.false_ne_true, if_neg Bool.false_ne_true, Bool.false_or, hrest]
      rfl

theorem wake_following {t : Tracker σ} {w j : Nat} {v : Watcher} (hw : t.watchers[w]? = some v)
    (hstage : v.stage = .following j) : t.wake w = t.follow w v j := by
  rw [wake, hw]
  dsimp only
  rw [hstage]

/-- A watcher that opens its stream goes on as one that follows it. -/
theorem poll_starting {t : Tracker σ} {w j : Nat} {v : Watcher} {source : σ}
    (hw : t.watchers[w]? = some v) (hstage : v.stage = .starting)
    (hopen : WatchSource.openWatch t.source v.taskId v.token = (.ok j, source)) :
    ∃ u : Tracker σ, t.poll w = u.poll w ∧ u.source = source ∧ u.catalog = t.catalog ∧
      u.cells = t.cells ∧ u.watchers[w]? = some { v with stage := .following j } := by
  have hlt := (List.getElem?_eq_some_iff.1 hw).1
  generalize hu : ({ t with
    source := source
    watchers := t.watchers.set w { v with stage := .following j } } : Tracker σ) = u
  have hw' : u.watchers[w]? = some { v with stage := .following j } := by
    rw [← hu]
    exact List.getElem?_set_self hlt
  have hfollow : wake { t with runtime := true } w =
      follow { u with runtime := true } w { v with stage := .following j } j := by
    rw [wake, hw]
    dsimp only
    rw [hstage]
    dsimp only
    rw [hopen, ← hu]
  have hwake : wake { u with runtime := true } w =
      follow { u with runtime := true } w { v with stage := .following j } j :=
    wake_following (t := { u with runtime := true }) hw' rfl
  have hruntime : u.runtime = t.runtime := by rw [← hu]
  refine ⟨u, ?_, ?_, ?_, ?_, hw'⟩
  · rw [poll, poll, beside, beside, hwake, hfollow, hruntime]
  · rw [← hu]
  · rw [← hu]
  · rw [← hu]

section

variable {t : Tracker σ} {w j : Nat} {v : Watcher} {s : CallState} {events : List Event}
  {more : Bool} {source : σ}

/-- A watcher that takes no terminal event waits for more. -/
theorem poll_waiting (hw : t.watchers[w]? = some v) (hstage : v.stage = .following j)
    (hs : t.cells[v.cell]? = some s)
    (htake : WatchSource.takeEvents t.source j = (events, true, source))
    (hquiet : events.any Event.isTerminal = false)
    (htoken : (WatchSource.tokens source).isCancelled v.token = false) :
    t.poll w = { t with
      cells := t.cells.set v.cell (s.received t.catalog events)
      source := source } := by
  have hwake := wake_following (t := { t with runtime := true }) hw hstage
  have hfold := foldEvents_eq (t := { t with runtime := true, source := source }) hs events
  rw [hquiet, if_neg Bool.false_ne_true] at hfold
  rw [poll, beside, hwake, follow]
  dsimp only
  rw [htake]
  dsimp only
  rw [hfold, CallState.received, hquiet, if_neg Bool.false_ne_true]
  have hnot : ¬(false || !true || (WatchSource.tokens source).isCancelled v.token) = true := by
    rw [htoken]
    decide
  exact congrArg (fun u : Tracker σ => { u with runtime := t.runtime }) (if_neg hnot)

/-- A watcher finishes when it took a terminal event, when no more events can come, or when it was
cancelled. Then it lets its stream go. -/
theorem poll_finishing (hw : t.watchers[w]? = some v) (hstage : v.stage = .following j)
    (hs : t.cells[v.cell]? = some s)
    (htake : WatchSource.takeEvents t.source j = (events, more, source))
    (hlast : events.any Event.isTerminal = true ∨ more = false ∨
      (WatchSource.tokens source).isCancelled v.token = true) :
    (t.poll w).cells = t.cells.set v.cell (s.received t.catalog events).unwatched ∧
      (t.poll w).watchers = t.watchers.set w { v with stage := .finished } ∧
      ∃ last, (last = source ∨ ∃ tokens, last = WatchSource.withTokens source tokens) ∧
        (t.poll w).source = WatchSource.release last j := by
  have hwake := wake_following (t := { t with runtime := true }) hw hstage
  have hlt := (List.getElem?_eq_some_iff.1 hs).1
  -- the tracker once the events are folded
  obtain ⟨u, hfold, hcells, hwatchers, hsource⟩ : ∃ u : Tracker σ,
      foldEvents { t with runtime := true, source := source } v.cell events =
        (events.any Event.isTerminal, u) ∧
      u.cells = t.cells.set v.cell (s.received t.catalog events) ∧ u.watchers = t.watchers ∧
      (u.source = source ∨ events.any Event.isTerminal = true ∧
        ∃ tokens, u.source = WatchSource.withTokens source tokens) := by
    have hfold := foldEvents_eq (t := { t with runtime := true, source := source }) hs events
    unfold CallState.received
    cases hterminal : events.any Event.isTerminal with
    | false =>
      rw [hterminal, if_neg Bool.false_ne_true] at hfold
      exact ⟨_, hfold, rfl, rfl, .inl rfl⟩
    | true =>
      rw [hterminal, if_pos rfl] at hfold
      have hended := markDone_eq (getElem?_setCell
        (t := { t with runtime := true, source := source }) hs
        (s.fold t.catalog (throughTerminal events)))
      refine ⟨_, hfold, ?_, watchers_markDone _ v.cell,
        .inr ⟨rfl, _, congrArg Tracker.source hended⟩⟩
      rw [hended]
      exact List.set_set ..
  have hcell : u.cells[v.cell]? = some (s.received t.catalog events) := by
    rw [hcells, List.getElem?_set_self hlt]
  have hstop : (events.any Event.isTerminal || !more || u.tokens.isCancelled v.token) = true := by
    obtain h | h | h := hlast
    · rw [h, Bool.true_or, Bool.true_or]
    · rw [h, Bool.not_false, Bool.or_true, Bool.true_or]
    · obtain e | ⟨hterminal, -⟩ := hsource
      · rw [Tracker.tokens, e, h, Bool.or_true]
      · rw [hterminal, Bool.true_or, Bool.true_or]
  have hreleased := finishWatcher_eq
    (t := { u with source := WatchSource.release u.source j }) (w := w) hcell
  rw [poll, beside, hwake, follow]
  dsimp only
  rw [htake]
  dsimp only
  rw [hfold]
  dsimp only
  rw [if_pos hstop]
  refine ⟨?_, ?_, u.source, hsource.imp_right And.right, congrArg Tracker.source hreleased⟩
  · refine (congrArg Tracker.cells hreleased).trans ?_
    show u.cells.set v.cell _ = _
    rw [hcells, List.set_set]
  · refine (congrArg Tracker.watchers hreleased).trans ?_
    show u.watchers.set w _ = _
    rw [hwatchers]

end

/-- A watcher whose stream cannot be opened finishes, after a line that says why unless it was
cancelled. -/
theorem poll_failing {t : Tracker σ} {w : Nat} {v : Watcher} {s : CallState} {e : ClientError}
    {source : σ} (hw : t.watchers[w]? = some v) (hstage : v.stage = .starting)
    (hs : t.cells[v.cell]? = some s)
    (hopen : WatchSource.openWatch t.source v.taskId v.token = (.error e, source)) :
    (t.poll w).cells = t.cells.set v.cell (match openFailureLine? e with
        | some line => (s.appendLine line).2
        | none => s).unwatched ∧
      (t.poll w).watchers = t.watchers.set w { v with stage := .finished } ∧
      (t.poll w).source = source := by
  have hlt := (List.getElem?_eq_some_iff.1 hs).1
  rw [poll, beside, wake]
  dsimp only
  rw [hw]
  dsimp only
  rw [hstage]
  dsimp only
  rw [hopen]
  dsimp only
  cases openFailureLine? e with
  | none =>
    dsimp only
    rw [finishWatcher_eq (t := { t with runtime := true, source := source }) hs]
    exact ⟨rfl, rfl, rfl⟩
  | some line =>
    dsimp only
    rw [updateCell_eq (t := { t with runtime := true, source := source }) hs,
      finishWatcher_eq (getElem?_setCell (t := { t with runtime := true, source := source }) hs _)]
    exact ⟨List.set_set .., rfl, rfl⟩

/-- A watcher has finished, and its call, which was in a state before, has received some events. -/
structure Received (t : Tracker σ) (w : Nat) (v : Watcher) (s : CallState) (catalog : Catalog)
    (events : List Event) : Prop where
  watcher : t.watchers[w]? = some { v with stage := .finished }
  cell : t.cells[v.cell]? = some (s.received catalog events).unwatched

/-- A watcher that has folded some events, none of them terminal, finishes with the others. -/
theorem poll_received {t : Tracker σ} {w j : Nat} {v : Watcher} {s : CallState}
    {folded events : List Event} {more : Bool} {source : σ} (hw : t.watchers[w]? = some v)
    (hstage : v.stage = .following j) (hs : t.cells[v.cell]? = some (s.fold t.catalog folded))
    (hquiet : folded.any Event.isTerminal = false)
    (htake : WatchSource.takeEvents t.source j = (events, more, source))
    (hlast : events.any Event.isTerminal = true ∨ more = false ∨
      (WatchSource.tokens source).isCancelled v.token = true) :
    (t.poll w).Received w v s t.catalog (folded ++ events) := by
  obtain ⟨hcells, hwatchers, -⟩ := poll_finishing hw hstage hs htake hlast
  constructor
  · rw [hwatchers, List.getElem?_set_self (List.getElem?_eq_some_iff.1 hw).1]
  · rw [hcells, List.getElem?_set_self (List.getElem?_eq_some_iff.1 hs).1,
      CallState.received_fold s t.catalog hquiet]

/-- A watcher that has finished does nothing. -/
theorem poll_finished {t : Tracker σ} {w : Nat} {v : Watcher} (hw : t.watchers[w]? = some v)
    (hstage : v.stage = .finished) : t.poll w = t := by
  rw [poll, beside, wake]
  dsimp only
  rw [hw]
  dsimp only
  rw [hstage]

end Tracker

end TaskWatch
