import TaskWatch.Proofs.Tracker.Delivery
import TaskWatch.Proofs.Tracker.Passage

/-!
# The end of a task reaches its call

A terminal event that is published for a task reaches every call whose watcher is subscribed to it,
in whatever order the turns come: the call is done, with the line of the event as its last, after all
events that were queued before (`LocalTracker.terminal_reaches_call`). Only the caller can prevent it,
by cancelling the watch while the publication still waits for room; and a watch that is opened in
the meantime stays open (`LocalTracker.waiting_publication_is_not_alone`).
-/

namespace TaskWatch.LocalTracker

variable {t : LocalTracker} {w j : Nat} {v : Watcher} {event : Event} {queue : List Event}

/-! ## The end of the watch -/

/-- A publication of a terminal event leaves its task without live streams, and only streams that are
opened later become live for it. -/
theorem Sound.liveStreams_after (sound : t.Sound) (taskId : String) (hlast : event.isTerminal = true)
    (rs : List Turn) :
    ∀ i ∈ ((t.publish taskId event).turns rs).tracker.source.liveStreams taskId,
      t.tracker.source.streams.length ≤ i := by
  intro i hi
  have published : (t.publish taskId event).Sound := sound.publish taskId event
  have hmoves := published.moves_turns rs
  have hlength : (t.publish taskId event).tracker.source.streams.length =
      t.tracker.source.streams.length := by
    rw [publish_eq]
    exact (t.tracker.source.publication_passes taskId event).length
  obtain ⟨ch, hch, htask⟩ := (published.turns rs).tracker.filed.live.liveStreams hi
  have hheld : i ∈ ((t.publish taskId event).turns rs).tracker.source.held :=
    (Broker.held_withoutTask _ taskId).subset (List.mem_append_left _ hi)
  rcases hmoves.held i hheld with hheld | hle
  · -- A stream that was live before is one of its task, but the publication took all of those.
    obtain ⟨⟨task, streams⟩, he, hstream⟩ := List.mem_flatMap.1 hheld
    obtain ⟨ch₀, hch₀, htask₀⟩ := published.tracker.filed.live _ _ he i hstream
    obtain ⟨ch₁, hch₁, same⟩ := hmoves.stream hch₀
    obtain rfl : ch₁ = ch := Option.some.inj (hch₁.symm.trans hch)
    have hlive : (t.publish taskId event).tracker.source.live =
        (t.tracker.source.withoutTask taskId).live := by
      rw [publish_eq]
      exact (t.tracker.source.publication_outcome taskId event).live_eq hlast rfl
    rw [hlive] at he
    have hne := (List.mem_filter.1 he).2
    rw [← htask₀, ← same.taskId, htask] at hne
    simp at hne
  · exact hlength ▸ hle

/-- The end of a call, once its watcher has taken the last event of the watch: the call is done, its
one eviction has yet to run, and of the streams of the task only those are live that were opened when
there were `opened` streams already. -/
structure Ends (t : LocalTracker) (w : Nat) (v : Watcher) (event : Event) (opened : Nat) : Prop where
  watcher : t.tracker.watchers[w]? = some { v with stage := .finished }
  cell : ∃ s, t.tracker.cells[v.cell]? = some s ∧ s.done = true ∧ s.watching = false ∧
    s.token = none ∧ s.lines.getLast? = some (CallState.closingLine event)
  token : t.tracker.source.tokens.isCancelled v.token = true
  planned : planned t.tracker.evictions v.cell = 1
  pending : ∀ e ∈ t.tracker.evictions, e.cell = v.cell → e.ran = false
  subscribers : ∀ i ∈ t.tracker.source.liveStreams v.taskId, opened ≤ i

/-- The eviction of a cell that becomes disposable in a step has not run. -/
theorem Sound.pending_step (sound : t.Sound) (r : TrackerStep) {i : Nat} {s s' : CallState}
    (hs : t.tracker.cells[i]? = some s) (hdisposable : s.disposable = false)
    (hs' : (t.tracker.step r).cells[i]? = some s') (hdisposable' : s'.disposable = true) :
    planned (t.tracker.step r).evictions i = 1 ∧
      ∀ e ∈ (t.tracker.step r).evictions, e.cell = i → e.ran = false := by
  have hnone : planned t.tracker.evictions i = 0 := by
    rw [(sound.tracker.kept.cell hs).planned, hdisposable]
    rfl
  have hone : planned (t.tracker.step r).evictions i = 1 := by
    rw [((sound.tracker.step r).kept.cell hs').planned, hdisposable']
    rfl
  refine ⟨hone, fun e he hcell => ?_⟩
  obtain ⟨k, hk⟩ := List.mem_iff_getElem?.1 he
  have hpass := Tracker.Passes.of_step t.tracker r
  cases hk₀ : t.tracker.evictions[k]? with
  | none => exact (hpass.fresh hk₀ hk).1
  | some e₀ =>
    obtain ⟨e₁, hk₁, hcontinues⟩ := hpass.eviction hk₀
    obtain rfl : e₁ = e := Option.some.inj (hk₁.symm.trans hk)
    have hcell₀ : e₀.cell = i := hcontinues.cell.symm.trans hcell
    exact absurd (by simpa using hcell₀)
      (List.countP_eq_zero.1 hnone e₀ (List.mem_of_getElem? hk₀))

/-- The watcher takes the event, and ends the call. -/
theorem Arrived.ends (h : t.Arrived w v j event queue) (sound : t.Sound)
    (hlast : event.isTerminal = true) {opened : Nat}
    (hopened : ∀ i ∈ (t.turn (.poll w)).tracker.source.liveStreams v.taskId, opened ≤ i) :
    (t.turn (.poll w)).Ends w v event opened := by
  obtain ⟨s, hs, hwatching, hcells, hwatchers, hcancelled, -⟩ := h.poll sound hlast
  have hcell : (t.tracker.poll w).cells[v.cell]? =
      some (s.fold t.tracker.catalog (queue ++ [event])).ended.unwatched := by
    rw [hcells]
    exact List.getElem?_set_self (List.getElem?_eq_some_iff.1 hs).1
  obtain ⟨hplanned, hpending⟩ := sound.pending_step (.poll w) hs
    (by rw [CallState.disposable, hwatching, Bool.not_true, Bool.and_false]) hcell
    (CallState.disposable_unwatched _)
  have hcapacity : 1 ≤ (s.fold t.tracker.catalog queue).capacity := by
    rw [(CallState.Learns.fold s t.tracker.catalog queue).capacity]
    exact (sound.tracker.kept.cell hs).capacity
  refine ⟨?_, ⟨_, hcell, rfl, rfl, rfl, ?_⟩, hcancelled, hplanned, hpending, hopened⟩
  · show (t.tracker.poll w).watchers[w]? = _
    rw [hwatchers]
    exact List.getElem?_set_self (List.getElem?_eq_some_iff.1 h.following.watcher).1
  · show (s.fold t.tracker.catalog (queue ++ [event])).lines.getLast? = _
    rw [CallState.fold_append]
    exact CallState.getLast?_applyEvent hcapacity t.tracker.catalog hlast

/-- A state that turns from the start come to. -/
def Reachable (t : LocalTracker) : Prop :=
  ∃ config catalog runtime capacity rs,
    t = (LocalTracker.new config catalog runtime capacity).turns rs

/-- A terminal event that is published for a task reaches every call whose watcher is subscribed to
it. Whatever happens in the meantime, as long as the caller does not cancel the watch before the
publication has come to its stream: when the watcher runs after that, it has folded all that was
queued before the event, and the event as the last, and the call ends. -/
theorem terminal_reaches_call (h : t.Reachable) (hw : t.tracker.watchers[w]? = some v)
    (hstage : v.stage = .following j) (hlive : j ∈ t.tracker.source.liveStreams v.taskId)
    (htoken : t.tracker.source.tokens.isCancelled v.token = false)
    (hlast : event.isTerminal = true) (rs : List Turn)
    (hspared : (t.publish v.taskId event).Spares t.publications.length j v.token rs)
    (hpast : ¬((t.publish v.taskId event).turns rs).Awaits t.publications.length j)
    (hrunning : ((t.publish v.taskId event).turns rs).tracker.watchers[w]? = some v) :
    ∃ ch, t.tracker.source.streams[j]? = some ch ∧
      Folded w v.cell j (t.publish v.taskId event) (rs ++ [.poll w]) (ch.queue ++ [event])
        ((t.publish v.taskId event).turns (rs ++ [.poll w])) ∧
      ((t.publish v.taskId event).turns (rs ++ [.poll w])).Ends w v event
        t.tracker.source.streams.length := by
  obtain ⟨config, catalog, runtime, capacity, before, rfl⟩ := h
  have sound := (Sound.new config catalog runtime capacity).turns before
  have published := sound.publish v.taskId event
  obtain ⟨ch, hch, hstart⟩ := sound.start hw hstage hlive htoken hlast
  obtain ⟨taken, rest, hqueue, hfolded, hcame⟩ :=
    published.on_the_way hlast hstart rs hspared hrunning
  rcases hcame with hcame | hcame
  · obtain ⟨q, hq, hmem, -⟩ := hcame.awaits
    exact absurd ⟨q, hq, hmem⟩ hpast
  · have harrived := published.turns rs
    obtain ⟨-, -, -, -, -, -, hfolded'⟩ := hcame.poll harrived hlast
    have hrun : ((LocalTracker.new config catalog runtime capacity).turns before |>.publish v.taskId
        event).turns (rs ++ [.poll w]) =
        (((LocalTracker.new config catalog runtime capacity).turns before |>.publish v.taskId
          event).turns rs).turn (.poll w) := List.foldl_append
    refine ⟨ch, hch, ?_, ?_⟩
    · rw [hqueue, List.append_assoc, hrun]
      exact hfolded.append hfolded'
    · have hopened := sound.liveStreams_after v.taskId hlast (rs ++ [.poll w])
      rw [hrun] at hopened ⊢
      exact hcame.ends harrived hlast hopened

/-! ## A watch without room -/

/-- A call with a task, as it is rendered. -/
def rendered (id : String) : Turn :=
  .step (.tracker (.render { id := id, name := "build" } { metadata := "\x7b\"task_id\":\"t\"\x7d" }))

/-- A call whose watcher follows a stream without room for another event, after some more turns. -/
def crowded (rs : List Turn) : LocalTracker :=
  (LocalTracker.new {} {} true 1).turns
    ([rendered "a", .poll 0, .step (.publish "t" { kind := .progress })] ++ rs)

theorem reachable_crowded (rs : List Turn) : (crowded rs).Reachable :=
  ⟨{}, {}, true, 1, _, rfl⟩

/-- The watcher of the first call. -/
def first : Watcher := ⟨0, "t", 0, .following 0⟩

/-- The end of the task. -/
def ending : Event := { kind := .completed }

/-- The publication waits until the watcher has made room, and then the event ends the call. -/
theorem terminal_reaches_crowded_call : ∃ ch,
    (crowded []).tracker.source.streams[0]? = some ch ∧
      Folded 0 first.cell 0 ((crowded []).publish first.taskId ending)
        ([.poll 0, .step (.resume 1)] ++ [.poll 0]) (ch.queue ++ [ending])
        (((crowded []).publish first.taskId ending).turns
          ([.poll 0, .step (.resume 1)] ++ [.poll 0])) ∧
      (((crowded []).publish first.taskId ending).turns
        ([.poll 0, .step (.resume 1)] ++ [.poll 0])).Ends 0 first ending
          (crowded []).tracker.source.streams.length := by
  obtain ⟨hw, hlive, htoken⟩ : (crowded []).tracker.watchers[0]? = some first ∧
      0 ∈ (crowded []).tracker.source.liveStreams first.taskId ∧
        (crowded []).tracker.source.tokens.isCancelled first.token = false := by decide +kernel
  obtain ⟨hended, hrunning⟩ : (((crowded []).publish first.taskId ending).turns
      [.poll 0, .step (.resume 1)]).publications[(crowded []).publications.length]? =
        some (.inr 1) ∧ (((crowded []).publish first.taskId ending).turns
      [.poll 0, .step (.resume 1)]).tracker.watchers[0]? = some first := by decide +kernel
  refine terminal_reaches_call (reachable_crowded []) hw rfl hlive htoken rfl
    [.poll 0, .step (.resume 1)] ⟨fun r e ha => ?_, fun r e => ?_, trivial⟩
    (fun ⟨q, hq, _⟩ => ?_) hrunning
  · obtain rfl := Step.tracker.inj (Turn.step.inj e)
    cases ha
  · cases e
  · exact Sum.inl_ne_inr (Option.some.inj (hq.symm.trans hended))

/-- A terminal event is published for a subscribed watcher, the publication ends, and so does the
watcher. -/
structure Concluded (t : LocalTracker) (w j : Nat) (v : Watcher) (event : Event)
    (rs : List Turn) : Prop where
  reachable : t.Reachable
  watcher : t.tracker.watchers[w]? = some v
  stage : v.stage = .following j
  live : j ∈ t.tracker.source.liveStreams v.taskId
  token : t.tracker.source.tokens.isCancelled v.token = false
  last : event.isTerminal = true
  published : ∃ n, ((t.publish v.taskId event).turns rs).publications[t.publications.length]? =
    some (.inr n)
  finished : ((t.publish v.taskId event).turns rs).tracker.watchers[w]? =
    some { v with stage := .finished }

theorem concluded_crowded (before rs : List Turn) (n : Nat)
    (h : (crowded before).tracker.watchers[0]? = some first ∧
      0 ∈ (crowded before).tracker.source.liveStreams first.taskId ∧
      (crowded before).tracker.source.tokens.isCancelled first.token = false ∧
      (((crowded before).publish first.taskId ending).turns rs).publications[
        (crowded before).publications.length]? = some (.inr n) ∧
      (((crowded before).publish first.taskId ending).turns rs).tracker.watchers[0]? =
        some { first with stage := .finished }) :
    Concluded (crowded before) 0 0 first ending rs := by
  obtain ⟨hw, hlive, htoken, hpublished, hfinished⟩ := h
  exact ⟨reachable_crowded before, hw, rfl, hlive, htoken, rfl, ⟨n, hpublished⟩, hfinished⟩

/-- While a publication waits, another watch of the task may be opened, which stays open, and the
caller may cancel the watch of the call, which is then left without the event. -/
theorem waiting_publication_is_not_alone :
    (¬∀ t w j v event rs, Concluded t w j v event rs →
      ((t.publish v.taskId event).turns rs).tracker.source.subscriberCount v.taskId = 0) ∧
    ¬∀ t w j v event rs, Concluded t w j v event rs →
      (((t.publish v.taskId event).turns rs).tracker.cells[v.cell]?).any (·.done) = true := by
  constructor <;> intro h
  · have hcount := h (crowded [rendered "b"]) 0 0 first ending
      [.poll 0, .poll 1, .step (.resume 1), .poll 0]
      (concluded_crowded _ _ 1 (by decide +kernel))
    revert hcount
    decide +kernel
  · have hdone := h (crowded []) 0 0 first ending
      [.step (.tracker (.cancelCall "a")), .step (.resume 1), .poll 0]
      (concluded_crowded _ _ 0 (by decide +kernel))
    revert hdone
    decide +kernel

end TaskWatch.LocalTracker
