import TaskWatch.Proofs.Tracker.Apart
import TaskWatch.Proofs.Tracker.Watches

/-!
# A terminal event on its way

While a publication has yet to come to the stream of a watcher, the stream is open and nothing but
the watcher touches it (`Waiting`). Then the event is the last of its queue, and still nothing but the
watcher touches it (`Arrived`, `Settled`), until the watcher runs, takes the whole queue and finishes.

* `Waiting.goesOn`, `Waiting.poll`, `Waiting.other`, `Arrived.poll`, `Arrived.other`: every turn keeps
  the event on its way;
* `Sound.on_the_way`: so does every list of turns, and what was queued before the event is folded into
  the call before it (`Folded`).
-/

namespace TaskWatch.LocalTracker

/-- No step of the caller cancels a token while a publication has yet to come to a stream. -/
def Spares (t : LocalTracker) (p j : Nat) (token : Token) : List Turn → Prop
  | [] => True
  | r :: rs =>
    (∀ s, r = .step (.tracker s) → s.actor = none → t.Awaits p j →
      (t.turn r).tracker.source.tokens.isCancelled token = false) ∧
    (t.turn r).Spares p j token rs

/-- A poll of a watcher. -/
def Turn.poll (w : Nat) : Turn := .step (.tracker (.poll w))

/-- A run in which a watcher folds some events of a stream into a cell: with each of its polls, all
that is queued there. -/
inductive Folded (w i j : Nat) : LocalTracker → List Turn → List Event → LocalTracker → Prop where
  | nil (t : LocalTracker) : Folded w i j t [] [] t
  | other {t t' : LocalTracker} {r : Turn} {rs : List Turn} {events : List Event}
      (hr : r ≠ .poll w) (h : Folded w i j (t.turn r) rs events t') :
      Folded w i j t (r :: rs) events t'
  | poll {t t' : LocalTracker} {rs : List Turn} {events : List Event} {ch : Channel}
      {c c' : CallState} (hch : t.tracker.source.streams[j]? = some ch)
      (hc : t.tracker.cells[i]? = some c)
      (hc' : (t.turn (.poll w)).tracker.cells[i]? = some c')
      (hfold : c' = c.fold t.tracker.catalog ch.queue ∨
        c' = (c.fold t.tracker.catalog ch.queue).ended.unwatched)
      (h : Folded w i j (t.turn (.poll w)) rs events t') :
      Folded w i j t (.poll w :: rs) (ch.queue ++ events) t'

theorem Folded.append {w i j : Nat} {t t' t'' : LocalTracker} {rs rs' : List Turn}
    {events events' : List Event} (h : Folded w i j t rs events t')
    (h' : Folded w i j t' rs' events' t'') :
    Folded w i j t (rs ++ rs') (events ++ events') t'' := by
  induction h with
  | nil => exact h'
  | other hr _ ih => exact .other hr (ih h')
  | poll hch hc hc' hfold _ ih =>
    rw [List.append_assoc]
    exact .poll hch hc hc' hfold (ih h')

/-! ## On the way -/

/-- A publication has yet to come to the stream of a watcher, in which some events are queued. -/
structure Waiting (t : LocalTracker) (p w : Nat) (v : Watcher) (j : Nat) (event : Event)
    (queue : List Event) : Prop where
  following : t.tracker.Following w v j queue
  uncancelled : t.tracker.source.tokens.isCancelled v.token = false
  awaits : ∃ q, t.publications[p]? = some (.inl q) ∧ j ∈ q.pending ∧ q.event = event

/-- A watcher follows a stream in which some events are queued, and the stream has no place any more,
so that no event comes after them. -/
structure Settled (t : LocalTracker) (w : Nat) (v : Watcher) (j : Nat) (queue : List Event) : Prop where
  following : t.tracker.Following w v j queue
  placed : j ∉ t.tracker.source.held ++ inFlight t.publications

/-- The event has come last into the stream of a watcher. -/
structure Arrived (t : LocalTracker) (w : Nat) (v : Watcher) (j : Nat) (event : Event)
    (queue : List Event) : Prop extends t.Settled w v j (queue ++ [event]) where
  quiet : ∀ e ∈ queue, e.isTerminal = false

variable {t t' : LocalTracker} {p w j : Nat} {v : Watcher} {event : Event} {queue : List Event}

/-- What is queued for a watcher does not end the watch, while its token is not cancelled. -/
theorem quiet_of_uncancelled (h : t.tracker.Following w v j queue) (links : t.tracker.Links)
    (htoken : t.tracker.source.tokens.isCancelled v.token = false) :
    ∀ e ∈ queue, e.isTerminal = false := by
  obtain ⟨ch, hch, rfl, htok, -⟩ := h.channel links
  exact (links.followed hch (htok.symm ▸ htoken)).1.queue

/-- How far an event has come once its publication waits or ends. -/
theorem waiting_or_arrived {r : PublicationState × Broker} {ch : Channel}
    (h : t.tracker.Following w v j ch.queue) (links : t.tracker.Links)
    (htoken : t.tracker.source.tokens.isCancelled v.token = false) (htok : ch.token = v.token)
    (hdelivers : Broker.Delivers j ch event r)
    (htracker : t'.tracker = { t.tracker with source := r.2 })
    (hpublication : t'.publications[p]? = some r.1)
    (hevent : ∀ q, r.1 = .inl q → q.event = event)
    (hplaced : (∀ q, r.1 = .inl q → j ∉ q.pending) →
      j ∉ r.2.held ++ inFlight t'.publications) :
    t'.Waiting p w v j event ch.queue ∨ t'.Arrived w v j event ch.queue := by
  have following : ∀ {queue : List Event}, (∃ ch', r.2.streams[j]? = some ch' ∧ ch'.queue = queue) →
      t'.tracker.Following w v j queue := fun hch' => by
    rw [htracker]
    exact ⟨h.watcher, h.stage, hch'⟩
  have tokens : t'.tracker.source.tokens = r.2.tokens := by rw [htracker]
  rw [Broker.Delivers, htok] at hdelivers
  rcases hdelivers with ⟨q, hq, hmem, hc, hch'⟩ | ⟨hpast, -, hch'⟩
  · exact .inl ⟨following hch', tokens ▸ hc, q, hq ▸ hpublication, hmem, hevent q hq⟩
  · refine .inr ⟨⟨following hch', ?_⟩, quiet_of_uncancelled h links htoken⟩
    rw [htracker]
    exact hplaced hpast

/-- The publication starts while the watcher is subscribed. -/
theorem Sound.start (h : t.Sound) (hw : t.tracker.watchers[w]? = some v)
    (hstage : v.stage = .following j) (hlive : j ∈ t.tracker.source.liveStreams v.taskId)
    (htoken : t.tracker.source.tokens.isCancelled v.token = false)
    (hlast : event.isTerminal = true) :
    ∃ ch, t.tracker.source.streams[j]? = some ch ∧
      ((t.publish v.taskId event).Waiting t.publications.length w v j event ch.queue ∨
        (t.publish v.taskId event).Arrived w v j event ch.queue) := by
  have links := h.tracker.links
  obtain ⟨ch, hch, htok, -⟩ := links.follows v (List.mem_of_getElem? hw) hstage
  have following : t.tracker.Following w v j ch.queue := ⟨hw, hstage, ch, hch, rfl⟩
  have houtcome := t.tracker.source.publication_outcome v.taskId event
  -- The streams that the publication takes are live nowhere else.
  have hnodup := h.tracker.filed.nodup
  rw [List.nodup_append] at hnodup
  obtain ⟨hheld, -, hdisjoint⟩ := hnodup
  obtain ⟨l, hperm, hsub⟩ := t.tracker.source.held_withoutTask v.taskId
  have htaken := hperm.nodup_iff.1 (hheld.sublist hsub)
  rw [List.nodup_append] at htaken
  obtain ⟨hpending, -, htaken⟩ := htaken
  have hdelivers : Broker.Delivers j ch event (t.tracker.source.publication v.taskId event) := by
    refine Broker.advance_delivers hlast hlive hpending hch (links.followed hch (htok ▸ htoken)).1
      (htok ▸ htoken) fun i _ hij ch' hch' => ?_
    rw [htok]
    exact following.token_ne links htoken hij hch'
  refine ⟨ch, hch, waiting_or_arrived following links htoken htok hdelivers ?_ ?_ ?_ ?_⟩
  · rw [publish_eq]
    rfl
  · rw [publish_eq]
    exact List.getElem?_concat_length
  · exact fun q hq => (houtcome.waiting hq).2.1
  · intro hpast hm
    have hmem : j ∈ t.tracker.source.held :=
      (t.tracker.source.held_withoutTask v.taskId).subset (List.mem_append_left _ hlive)
    rw [publish_eq, Broker.held, houtcome.live_eq hlast rfl] at hm
    rcases List.mem_append.1 hm with hm | hm
    · exact htaken j hlive j hm rfl
    · rw [inFlight, List.flatMap_append, List.flatMap_singleton] at hm
      rcases List.mem_append.1 hm with hm | hm
      · exact hdisjoint j hmem j hm rfl
      · cases hr : (t.tracker.source.publication v.taskId event).1 with
        | inl q => exact hpast q hr (by rwa [hr] at hm)
        | inr n =>
          rw [hr] at hm
          exact absurd hm List.not_mem_nil

/-- A turn that does not go on with a publication leaves it where it is. -/
theorem publications_turn {r : Turn} (hr : r.goesOn ≠ some p) {q : Publication}
    (hq : t.publications[p]? = some (.inl q)) : (t.turn r).publications[p]? = some (.inl q) := by
  cases hi : r.goesOn with
  | some i =>
    by_cases hq' : ∃ q', t.publications[i]? = some (.inl q')
    · obtain ⟨q', hq'⟩ := hq'
      obtain ⟨b, -, e⟩ := turn_goesOn hi hq'
      rw [e]
      exact (List.getElem?_set_ne fun e' : i = p => hr (e' ▸ hi)).trans hq
    · rwa [turn_goesOn_of_ne hi fun q' h => hq' ⟨q', h⟩]
  | none =>
    cases r with
    | land => cases hi
    | step s =>
      cases s with
      | tracker | close | reject => exact hq
      | publish taskId event' =>
        show (t.publish taskId event').publications[p]? = _
        rw [publish_eq]
        exact (List.getElem?_append_left (List.getElem?_eq_some_iff.1 hq).1).trans hq
      | resume => cases hi

/-- A step of the tracker that is no poll of a watcher is none of its own. -/
theorem actor_ne {s : TrackerStep} (hpoll : Turn.step (.tracker s) ≠ .poll w) :
    s.actor ≠ some w := by
  intro e
  cases s with
  | poll u => exact hpoll (Option.some.inj e ▸ rfl)
  | _ => cases e

namespace Waiting

/-- The publication goes on. -/
theorem goesOn (h : t.Waiting p w v j event queue) (sound : t.Sound)
    (hlast : event.isTerminal = true) {r : Turn} (hr : r.goesOn = some p) :
    (t.turn r).Waiting p w v j event queue ∨ (t.turn r).Arrived w v j event queue := by
  obtain ⟨q, hq, hmem, rfl⟩ := h.awaits
  have links := sound.tracker.links
  obtain ⟨ch, hch, rfl, htok, -⟩ := h.following.channel links
  obtain ⟨-, hkept⟩ := sound.waits q (List.mem_of_getElem? hq)
  obtain ⟨b, hgoes, e⟩ := turn_goesOn hr hq
  have houtcome := hgoes.outcome
  -- The streams that the publication has yet to come to have no other place.
  obtain ⟨before, after, hflight, hset⟩ := inFlight_split hq
  have hnodup := sound.tracker.filed.nodup
  rw [hflight, List.nodup_append] at hnodup
  obtain ⟨-, hflying, hheld⟩ := hnodup
  rw [List.nodup_append, List.nodup_append] at hflying
  obtain ⟨-, ⟨hpending, -, hafter⟩, hbefore⟩ := hflying
  have hdelivers := hgoes.delivers hlast hmem hpending hch
    (links.followed hch (htok ▸ h.uncancelled)).1 (htok ▸ h.uncancelled) fun i _ hij ch' hch' => by
      rw [htok]
      exact h.following.token_ne links h.uncancelled hij hch'
  rw [e]
  refine waiting_or_arrived h.following links h.uncancelled htok hdelivers rfl ?_ ?_ ?_
  · exact List.getElem?_set_self (List.getElem?_eq_some_iff.1 hq).1
  · exact fun q' hq' => (houtcome.waiting hq').2.1
  · intro hpast hm
    rw [Broker.held, houtcome.live_eq hlast hkept] at hm
    dsimp only at hm
    rw [hset] at hm
    rcases List.mem_append.1 hm with hm | hm
    · exact hheld j hm j (List.mem_append_right _ (List.mem_append_left _ hmem)) rfl
    rcases List.mem_append.1 hm with hm | hm
    · exact hbefore j hm j (List.mem_append_left _ hmem) rfl
    rcases List.mem_append.1 hm with hm | hm
    · cases hb : b.1 with
      | inl q' => exact hpast q' hb (by rwa [hb] at hm)
      | inr n =>
        rw [hb] at hm
        exact absurd hm List.not_mem_nil
    · exact hafter j hmem j hm rfl

/-- The watcher takes what is queued. -/
theorem poll (h : t.Waiting p w v j event queue) (sound : t.Sound) :
    Folded w v.cell j t [.poll w] queue (t.turn (.poll w)) ∧
      (t.turn (.poll w)).Waiting p w v j event [] := by
  have links := sound.tracker.links
  have hstage : v.stage ≠ .finished := by
    rw [h.following.stage]
    nofun
  obtain ⟨s, hs, -⟩ := sound.tracker.kept.watching (List.mem_of_getElem? h.following.watcher) hstage
  obtain ⟨ch, hch, rfl, hpoll⟩ := h.following.poll_eq links h.uncancelled hs
  have hstep : t.turn (.poll w) = { t with tracker := { t.tracker with
      cells := t.tracker.cells.set v.cell (s.fold t.tracker.catalog ch.queue)
      source := t.tracker.source.setStream j { ch with queue := [] } } } := by
    rw [← hpoll]
    rfl
  have hlt := (List.getElem?_eq_some_iff.1 hs).1
  have hj := (List.getElem?_eq_some_iff.1 hch).1
  constructor
  · have hcell : (t.turn (.poll w)).tracker.cells[v.cell]? =
        some (s.fold t.tracker.catalog ch.queue) := by
      rw [hstep]
      exact List.getElem?_set_self hlt
    have folded := Folded.poll hch hs hcell (.inl rfl) (.nil _)
    rwa [List.append_nil] at folded
  · rw [hstep]
    exact ⟨⟨h.following.watcher, h.following.stage, _, List.getElem?_set_self hj, rfl⟩,
      h.uncancelled, h.awaits⟩

/-- Whatever else happens. -/
theorem other (h : t.Waiting p w v j event queue) (sound : t.Sound) {r : Turn}
    (hpoll : r ≠ .poll w) (hr : r.goesOn ≠ some p)
    (hspared : ∀ s, r = .step (.tracker s) → s.actor = none →
      (t.turn r).tracker.source.tokens.isCancelled v.token = false) :
    (t.turn r).Waiting p w v j event queue := by
  obtain ⟨q, hq, hmem, hevent⟩ := h.awaits
  have awaits : ∃ q, (t.turn r).publications[p]? = some (.inl q) ∧ j ∈ q.pending ∧ q.event = event :=
    ⟨q, publications_turn hr hq, hmem, hevent⟩
  obtain ⟨s, rfl⟩ | ⟨-, b, htracker, hpass⟩ := t.turn_cases r
  · have hactor := actor_ne hpoll
    exact ⟨h.following.step sound.tracker s hactor,
      h.following.uncancelled_step sound.tracker hactor (hspared s rfl) h.uncancelled, awaits⟩
  · have hnot := sound.not_touched ⟨q, hq, hmem⟩ hr
    refine ⟨?_, ?_, awaits⟩
    · rw [htracker]
      exact h.following.source hpass hnot
    · rw [htracker]
      exact h.following.uncancelled_source sound.tracker.links hpass hnot h.uncancelled

end Waiting

/-- A watcher that has finished stays so. -/
theorem finished_turn (r : Turn) (hw : t.tracker.watchers[w]? = some v)
    (hv : v.stage = .finished) : (t.turn r).tracker.watchers[w]? = some v := by
  obtain ⟨s, rfl⟩ | ⟨-, b, htracker, -⟩ := t.turn_cases r
  · exact Tracker.finished_step s hw hv
  · rw [htracker]
    exact hw

theorem finished_turns (rs : List Turn) (hw : t.tracker.watchers[w]? = some v)
    (hv : v.stage = .finished) : (t.turns rs).tracker.watchers[w]? = some v := by
  induction rs generalizing t with
  | nil => exact hw
  | cons r rs ih => exact ih (finished_turn r hw hv)

/-- Whatever else happens. -/
theorem Settled.other (h : t.Settled w v j queue) (sound : t.Sound) {r : Turn}
    (hpoll : r ≠ .poll w) : (t.turn r).Settled w v j queue := by
  obtain ⟨ch, hch, -⟩ := h.following.stream
  have hlt := (List.getElem?_eq_some_iff.1 hch).1
  refine ⟨?_, fun hm => ?_⟩
  · obtain ⟨s, rfl⟩ | ⟨-, b, htracker, hpass⟩ := t.turn_cases r
    · exact h.following.step sound.tracker s (actor_ne hpoll)
    · rw [htracker]
      exact h.following.source hpass fun hm => h.placed (t.touchedBy_subset r hm)
  · rcases (sound.moves r).placed j hm with hm | hm
    · exact h.placed hm
    · omega

namespace Arrived

/-- Whatever else happens. -/
theorem other (h : t.Arrived w v j event queue) (sound : t.Sound) {r : Turn}
    (hpoll : r ≠ .poll w) : (t.turn r).Arrived w v j event queue :=
  ⟨h.toSettled.other sound hpoll, h.quiet⟩

/-- The watcher takes what is queued, and finishes. -/
theorem poll (h : t.Arrived w v j event queue) (sound : t.Sound)
    (hlast : event.isTerminal = true) :
    ∃ s, t.tracker.cells[v.cell]? = some s ∧ s.watching = true ∧
      (t.tracker.poll w).cells = t.tracker.cells.set v.cell
        (s.fold t.tracker.catalog (queue ++ [event])).ended.unwatched ∧
      (t.tracker.poll w).watchers = t.tracker.watchers.set w { v with stage := .finished } ∧
      (t.tracker.poll w).source.tokens.isCancelled v.token = true ∧
      Folded w v.cell j t [.poll w] (queue ++ [event]) (t.turn (.poll w)) := by
  obtain ⟨ch, hch, hqueue, htok, -⟩ := h.following.channel sound.tracker.links
  have hstage : v.stage ≠ .finished := by
    rw [h.following.stage]
    nofun
  obtain ⟨s, hs, hwatching, -⟩ :=
    sound.tracker.kept.watching (List.mem_of_getElem? h.following.watcher) hstage
  obtain ⟨hcells, hwatchers, hcancelled⟩ := Tracker.poll_closing h.following.watcher
    h.following.stage hs hch hqueue h.quiet hlast
  have hcell : (t.tracker.poll w).cells[v.cell]? =
      some (s.fold t.tracker.catalog ch.queue).ended.unwatched := by
    rw [hcells]
    exact List.getElem?_set_self (List.getElem?_eq_some_iff.1 hs).1
  have folded := Folded.poll (w := w) hch hs hcell (.inr rfl) (.nil _)
  rw [List.append_nil, hqueue] at folded
  rw [hqueue] at hcells
  exact ⟨s, hs, hwatching, hcells, hwatchers, htok ▸ hcancelled, folded⟩

end Arrived

/-- While the watcher runs, the event is on its way, and what was queued before is folded. -/
theorem Sound.on_the_way (sound : t.Sound) (hlast : event.isTerminal = true)
    (h : t.Waiting p w v j event queue ∨ t.Arrived w v j event queue) (rs : List Turn)
    (hspared : t.Spares p j v.token rs)
    (hrunning : (t.turns rs).tracker.watchers[w]? = some v) :
    ∃ taken rest, queue = taken ++ rest ∧ Folded w v.cell j t rs taken (t.turns rs) ∧
      ((t.turns rs).Waiting p w v j event rest ∨ (t.turns rs).Arrived w v j event rest) := by
  induction rs generalizing t queue with
  | nil => exact ⟨[], queue, rfl, .nil t, h⟩
  | cons r rs ih =>
    obtain ⟨hspared, hrest⟩ := hspared
    by_cases hpoll : r = .poll w
    · subst hpoll
      rcases h with h | h
      · obtain ⟨hfolded, hwaiting⟩ := h.poll sound
        obtain ⟨taken, rest, e, hfolded', hcame⟩ := ih (sound.turn _) (.inl hwaiting) hrest hrunning
        obtain ⟨rfl, rfl⟩ : taken = [] ∧ rest = [] := by simpa using e.symm
        refine ⟨queue, [], (List.append_nil queue).symm, ?_, hcame⟩
        have folded := hfolded.append hfolded'
        rwa [List.append_nil] at folded
      · -- The watcher would have finished.
        obtain ⟨-, -, -, -, hwatchers, -⟩ := h.poll sound hlast
        have hfinished : (t.turn (.poll w)).tracker.watchers[w]? =
            some { v with stage := .finished } := by
          show (t.tracker.poll w).watchers[w]? = _
          rw [hwatchers]
          exact List.getElem?_set_self (List.getElem?_eq_some_iff.1 h.following.watcher).1
        have hstays := finished_turns rs hfinished rfl
        have hstage := congrArg Watcher.stage (Option.some.inj (hrunning.symm.trans hstays))
        rw [h.following.stage] at hstage
        cases hstage
    · have hnext : (t.turn r).Waiting p w v j event queue ∨ (t.turn r).Arrived w v j event queue := by
        rcases h with h | h
        · by_cases hr : r.goesOn = some p
          · exact h.goesOn sound hlast hr
          · obtain ⟨q, hq, hmem, -⟩ := h.awaits
            exact .inl (h.other sound hpoll hr fun s e ha => hspared s e ha ⟨q, hq, hmem⟩)
        · exact .inr (h.other sound hpoll)
      obtain ⟨taken, rest, e, hfolded, hcame⟩ := ih (sound.turn r) hnext hrest hrunning
      exact ⟨taken, rest, e, .other hpoll hfolded, hcame⟩

end TaskWatch.LocalTracker
