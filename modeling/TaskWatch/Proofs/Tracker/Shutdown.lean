import TaskWatch.Proofs.Tracker.Group
import TaskWatch.Proofs.Tracker.Race
import TaskWatch.Proofs.Tracker.Stopped
import TaskWatch.Proofs.Tracker.Unwatched

/-!
# A shutdown is final

Whatever happens after a shutdown, no watcher starts, no stream is opened and no publication reaches
anyone. Each watcher that was running finishes when it is polled. What it folds then was queued at
the shutdown, but for a terminal event whose publication waited for room in its queue
(`LocalTracker.Draining`); a watcher without a stream folds nothing, and its call shows no error.
-/

namespace TaskWatch

/-- The events that are queued for a watcher. -/
def Tracker.queued (t : Tracker Broker) (v : Watcher) : List Event :=
  match v.stage with
  | .following j => ((t.source.streams[j]?).map (·.queue)).getD []
  | .starting | .finished => []

theorem Tracker.Following.queued {t : Tracker Broker} {w j : Nat} {v : Watcher}
    {queue : List Event} (h : t.Following w v j queue) : t.queued v = queue := by
  obtain ⟨ch, hch, rfl⟩ := h.stream
  rw [Tracker.queued, h.stage]
  dsimp only
  rw [hch]
  rfl

namespace LocalTracker

/-- A publication waits for room in the queue of a stream. -/
def Waits (t : LocalTracker) (k j : Nat) (event : Event) : Prop :=
  ∃ p, t.publications[k]? = some (.inl p) ∧ p.pending.head? = some j ∧ p.event = event

/-- No two publications wait for room in one queue. -/
theorem Sound.waits_unique {t : LocalTracker} (h : t.Sound) {k k' j : Nat} {event event' : Event}
    (hk : t.Waits k j event) (hk' : t.Waits k' j event') : k = k' := by
  obtain ⟨p, hp, hj, -⟩ := hk
  obtain ⟨p', hp', hj', -⟩ := hk'
  by_contra hne
  have hawaits : t.Awaits k j := ⟨p, hp, List.mem_of_head? hj⟩
  have hnot := h.not_touched (r := .land k') hawaits fun e => hne (Option.some.inj e).symm
  rw [touchedBy, hp'] at hnot
  exact hnot (List.mem_of_head? hj')

/-- What has become of a tracker that was stopped: nothing has come to the queues of its watchers but
events that were waiting for room. -/
structure Draining (t u : LocalTracker) : Prop where
  sound : u.Sound
  stopped : u.tracker.Stopped
  length : u.tracker.watchers.length = t.tracker.watchers.length
  streams : u.tracker.source.streams.length = t.tracker.source.streams.length
  running : ∀ {w : Nat} {v}, u.tracker.watchers[w]? = some v → v.stage ≠ .finished →
    t.tracker.watchers[w]? = some v
  waiting : ∀ {k : Nat} {p}, u.publications[k]? = some (.inl p) → t.publications[k]? = some (.inl p)
  queued : ∀ {w j : Nat} {v queue}, u.tracker.watchers[w]? = some v →
    t.tracker.Following w v j queue → u.tracker.Following w v j queue ∨
      ∃ k event, t.Waits k j event ∧ (∀ p, u.publications[k]? ≠ some (.inl p)) ∧
        u.tracker.Following w v j (queue ++ [event])

namespace Draining

variable {t u : LocalTracker}

theorem silent (h : Draining t u) : u.tracker.source.Silent :=
  h.stopped.silent h.sound.tracker.links

/-- The broker changes, but nothing is queued. -/
theorem source (h : Draining t u) {b : Broker} {publications : List PublicationState}
    (hpass : u.tracker.source.Passes [] b)
    (hsound : Sound { u.withBroker b with publications := publications })
    (hwaiting : ∀ {k : Nat} {p}, publications[k]? = some (.inl p) →
      u.publications[k]? = some (.inl p)) :
    Draining t { u.withBroker b with publications := publications } where
  sound := hsound
  stopped := h.stopped.watches (.of_eq hpass.grows.tokens rfl rfl rfl)
  length := h.length
  streams := hpass.length.trans h.streams
  running := h.running
  waiting hp := h.waiting (hwaiting hp)
  queued hw hfollowing := by
    obtain hu | ⟨k, event, hk, hended, hu⟩ := h.queued hw hfollowing
    · exact .inl (hu.source hpass List.not_mem_nil)
    · exact .inr ⟨k, event, hk, fun p hp => hended p (hwaiting hp),
        hu.source hpass List.not_mem_nil⟩

/-- A publication that ends is not under way any more. -/
theorem waiting_set {publications : List PublicationState} {i n k : Nat} {p : Publication}
    (hp : (publications.set i (.inr n))[k]? = some (.inl p)) :
    publications[k]? = some (.inl p) ∧ i ≠ k := by
  rw [List.getElem?_set] at hp
  split at hp
  · split at hp <;> cases hp
  · next hne => exact ⟨hp, hne⟩

theorem resume (h : Draining t u) (i : Nat) : Draining t (u.resume i) := by
  by_cases hi : ∃ p, u.publications[i]? = some (.inl p)
  · obtain ⟨p, hi⟩ := hi
    obtain ⟨hended, hpass⟩ := h.silent.advance p p.pending
    have hsound : (u.resume i).Sound := h.sound.step (.resume i)
    rw [resume_eq hi] at hsound ⊢
    refine h.source hpass hsound fun hp => ?_
    rw [hended] at hp
    exact (waiting_set hp).1
  · rwa [resume_of_ne fun p hp => hi ⟨p, hp⟩]

/-- A publication that has waited finds room. -/
theorem land (h : Draining t u) (ht : t.Sound) (i : Nat) : Draining t (u.land i) := by
  by_cases hi : ∃ p, u.publications[i]? = some (.inl p)
  · obtain ⟨p, hi⟩ := hi
    have hsound : (u.land i).Sound := h.sound.turn (.land i)
    rw [land_eq hi] at hsound ⊢
    obtain e | ⟨j, rest, ch, hpending, hch, -, -, e⟩ := u.tracker.source.land_cases p
    · have hresume := h.resume i
      rw [resume_eq hi] at hresume
      rw [e]
      exact hresume
    generalize hb : (u.tracker.source.setStream j { ch with queue := ch.queue ++ [p.event] }).closeStream
      j = b at e
    have hhead : u.tracker.source.Passes [j] b :=
      hb ▸ Broker.Passes.setStream_closeStream hch ⟨rfl, rfl, rfl⟩
    obtain ⟨hended, htail⟩ := (h.silent.grows hhead.grows).advance
      { p with delivered := p.delivered + 1 } rest
    rw [← e] at hended htail
    have hpass := hhead.trans (htail.mono (List.nil_subset [j]))
    have hwaits : t.Waits i j p.event := ⟨p, h.waiting hi, by rw [hpending]; rfl, rfl⟩
    refine ⟨hsound, h.stopped.watches (.of_eq hpass.grows.tokens rfl rfl rfl), h.length,
      hpass.length.trans h.streams, h.running, fun hp => ?_, fun {w k v queue} hw hfollowing => ?_⟩
    · rw [hended] at hp
      exact h.waiting (waiting_set hp).1
    · rw [hended]
      have hkept : ∀ {k' : Nat}, (∀ q, u.publications[k']? ≠ some (.inl q)) →
          ∀ q, (u.publications.set i (.inr (p.delivered + 1)))[k']? ≠ some (.inl q) :=
        fun hnot q hq => hnot q (waiting_set hq).1
      by_cases hjk : j = k
      · subst hjk
        obtain hu | ⟨k', event, hk', hnot, -⟩ := h.queued hw hfollowing
        · -- The event is the first that has come since.
          refine .inr ⟨i, p.event, hwaits, fun q hq => (waiting_set hq).2 rfl, hu.watcher,
            hu.stage, ?_⟩
          obtain ⟨ch', hch', rfl⟩ := hu.stream
          obtain rfl : ch = ch' := Option.some.inj (hch.symm.trans hch')
          have hclosed : b.streams[j]? =
              some ({ ch with queue := ch.queue ++ [p.event] } : Channel).close.dropSink := by
            rw [← hb]
            simp [Broker.closeStream, Broker.setStream, Broker.stream?, Broker.cancel,
              (List.getElem?_eq_some_iff.1 hch).1]
          obtain ⟨ch₁, hch₁, hqueue⟩ := htail.queue hclosed List.not_mem_nil
          exact ⟨ch₁, hch₁, hqueue⟩
        · -- No other publication has waited for room in this queue.
          exact absurd hi (ht.waits_unique hk' hwaits ▸ hnot p)
      · have hnot : k ∉ [j] := fun hm => hjk (List.mem_singleton.1 hm).symm
        obtain hu | ⟨k', event, hk', hnot', hu⟩ := h.queued hw hfollowing
        · exact .inl (hu.source hpass hnot)
        · exact .inr ⟨k', event, hk', hkept hnot', hu.source hpass hnot⟩
  · rwa [land_of_ne fun p hp => hi ⟨p, hp⟩]

/-- A step of the tracker itself. -/
theorem tracker_step (h : Draining t u) (s : TrackerStep) :
    Draining t (u.step (.tracker s)) := by
  obtain ⟨hgrows, hrunning⟩ := h.stopped.step s
  have hwatches := Tracker.Watches.of_step u.tracker s
  refine ⟨h.sound.step (.tracker s), h.stopped.watches hwatches,
    (h.stopped.length hwatches).trans h.length, hgrows.length.trans h.streams,
    fun hw hstage => h.running (hrunning hw hstage) hstage, h.waiting,
    fun {w j v queue} hw hfollowing => ?_⟩
  have hstage : v.stage ≠ .finished := by
    rw [hfollowing.stage]
    nofun
  have hw' := hrunning hw hstage
  have hactor : s.actor ≠ some w := by
    intro hactor
    cases s with
    | poll w' =>
      obtain rfl : w' = w := Option.some.inj hactor
      -- The watcher that is polled finishes.
      obtain ⟨s, hs, -⟩ := h.sound.tracker.kept.watcher v (List.mem_of_getElem? hw')
      have hpolled := Tracker.poll_cancelled hw' hstage hs
        (h.stopped.cancelled v (List.mem_of_getElem? hw') hstage)
      have hw : (u.tracker.poll w').watchers[w']? = some v := hw
      rw [hpolled, List.getElem?_set_self (List.getElem?_eq_some_iff.1 hw').1] at hw
      exact hstage (Option.some.inj hw ▸ rfl)
    | _ => cases hactor
  obtain hu | ⟨k, event, hk, hnot, hu⟩ := h.queued hw' hfollowing
  · exact .inl (hu.step h.sound.tracker s hactor)
  · exact .inr ⟨k, event, hk, hnot, hu.step h.sound.tracker s hactor⟩

theorem turn (h : Draining t u) (ht : t.Sound) (r : Turn) : Draining t (u.turn r) := by
  cases r with
  | land i => exact h.land ht i
  | step s =>
    have hsound := h.sound.step s
    cases s with
    | tracker s => exact h.tracker_step s
    | publish taskId event =>
      obtain ⟨hended, hpass⟩ := h.silent.publication taskId event
      show Draining t (u.publish taskId event)
      have hpublished : (u.publish taskId event).Sound := hsound
      rw [publish_eq] at hpublished ⊢
      refine h.source hpass hpublished fun {k p} hp => ?_
      rw [hended, List.getElem?_append] at hp
      split at hp
      · exact hp
      · cases List.mem_singleton.1 (List.mem_of_getElem? hp)
    | resume i => exact h.resume i
    | close taskId =>
      have hwithout := Broker.Passes.withoutTask u.tracker.source taskId
      have hclosed := (h.silent.grows hwithout.grows).foldl_closeStream
        (u.tracker.source.liveStreams taskId)
      exact h.source (hwithout.trans hclosed) hsound id
    | reject taskId message =>
      exact h.source (.of_eq (by rfl) (by rfl) (by rfl) []) hsound id

theorem turns (h : Draining t u) (ht : t.Sound) (rs : List Turn) : Draining t (u.turns rs) := by
  induction rs generalizing u with
  | nil => exact h
  | cons r rs ih => exact ih (h.turn ht r)

end Draining

/-! ## From the shutdown on -/

/-- A shutdown cancels every watcher that is running, and changes nothing else. -/
theorem Sound.shutdown {t : LocalTracker} (h : t.Sound) (guarded : t.tracker.Guarded) :
    Draining t (t.step (.tracker .shutdown)) := by
  have strikes := Tracker.foldl_cancelWatch { t.tracker with closed := true }
    (t.tracker.calls.map (·.2))
  have hclosed : t.tracker.shutdown.closed = true := (congrArg Tracker.closed strikes.frame :)
  have hwatchers : t.tracker.shutdown.watchers = t.tracker.watchers :=
    (congrArg Tracker.watchers strikes.frame :)
  refine ⟨h.step _, ⟨hclosed, fun v hv hstage => ?_⟩, congrArg List.length hwatchers, ?_,
    fun hw _ => hwatchers ▸ hw, id, fun _ hfollowing =>
      .inl (hfollowing.step h.tracker .shutdown (by nofun))⟩
  · have hv : v ∈ t.tracker.watchers := hwatchers ▸ hv
    obtain ⟨s, hs, hwatching, -⟩ := guarded.kept.watching hv hstage
    refine (strikes.cancelled v.token).2 ?_
    obtain hheld | hc := guarded.armed.running v hv hstage hs
    · -- A cell that is watched is the current one of its call.
      exact .inr ⟨v.cell, List.mem_map.2 ⟨_, guarded.kept.current hs hwatching, rfl⟩, s, hs, hheld⟩
    · exact .inl hc
  · obtain e | ⟨tokens, e⟩ := Tracker.Changes.onlyTokens t.tracker.shutdown_changes
    · exact congrArg (·.streams.length) e
    · exact congrArg (·.streams.length) e

/-- What holds after a shutdown, compared with the tracker that was shut down. -/
structure ShutDown (t u : LocalTracker) : Prop where
  /-- All watchers that are still running are cancelled. -/
  cancelled : ∀ v ∈ u.tracker.watchers, v.stage ≠ .finished →
    u.tracker.tokens.isCancelled v.token = true
  /-- No watcher has started. -/
  watchers : u.tracker.watchers.length = t.tracker.watchers.length
  /-- No stream was opened. -/
  streams : u.tracker.source.streams.length = t.tracker.source.streams.length
  /-- A watcher that is still running is as it was, and finishes when it is polled. Its call receives
  the events that were queued at the shutdown, and at most one that waited for room. -/
  polled : ∀ {w : Nat} {v}, u.tracker.watchers[w]? = some v → v.stage ≠ .finished →
    t.tracker.watchers[w]? = some v ∧ ∃ s late, u.tracker.cells[v.cell]? = some s ∧
      (late = [] ∨ ∃ k j event, v.stage = .following j ∧ t.Waits k j event ∧ late = [event]) ∧
      (u.tracker.poll w).cells = u.tracker.cells.set v.cell
        (s.received u.tracker.catalog (t.tracker.queued v ++ late)).unwatched ∧
      (u.tracker.poll w).watchers = u.tracker.watchers.set w { v with stage := .finished }
  /-- A watcher that has finished does nothing when it is polled. -/
  idle : ∀ {w : Nat} {v}, u.tracker.watchers[w]? = some v → v.stage = .finished →
    u.tracker.poll w = u.tracker
  /-- The call of a watcher that has not opened its stream only ceases to be watched. -/
  unopened : ∀ {w : Nat} {v s}, u.tracker.watchers[w]? = some v → v.stage = .starting →
    u.tracker.cells[v.cell]? = some s →
    (u.tracker.poll w).cells = u.tracker.cells.set v.cell s.unwatched
  /-- Once all watchers have finished, no call is watched. -/
  unwatched : (∀ v ∈ u.tracker.watchers, v.stage = .finished) →
    ∀ s ∈ u.tracker.cells, s.watching = false
  subscribers : ∀ taskId, u.tracker.source.subscriberCount taskId = 0
  /-- Every publication reaches nobody, and has not to wait. -/
  published : ∀ taskId event, (u.publish taskId event).publications = u.publications ++ [.inr 0]

namespace Draining

variable {t u : LocalTracker}

/-- A watcher that has no stream gets none, and leaves no trace. -/
theorem poll_starting (h : Draining t u) {w : Nat} {v : Watcher} {s : CallState}
    (hw : u.tracker.watchers[w]? = some v) (hstage : v.stage = .starting)
    (hs : u.tracker.cells[v.cell]? = some s) :
    (u.tracker.poll w).cells = u.tracker.cells.set v.cell s.unwatched ∧
      (u.tracker.poll w).watchers = u.tracker.watchers.set w { v with stage := .finished } := by
  have hc := h.stopped.cancelled v (List.mem_of_getElem? hw) (by rw [hstage]; nofun)
  have hopen : WatchSource.openWatch u.tracker.source v.taskId v.token =
      (.error .cancelled, u.tracker.source) := Broker.watch_cancelled hc v.taskId
  obtain ⟨hcells, hwatchers, -⟩ := Tracker.poll_failing hw hstage hs hopen
  have hsilent : Tracker.openFailureLine? .cancelled = none := if_pos rfl
  rw [hsilent] at hcells
  exact ⟨hcells, hwatchers⟩

/-- A watcher that has a stream folds what is queued there. -/
theorem poll_following (h : Draining t u) {w j : Nat} {v : Watcher} {s : CallState}
    {queue : List Event} (hu : u.tracker.Following w v j queue)
    (hs : u.tracker.cells[v.cell]? = some s) :
    (u.tracker.poll w).cells =
        u.tracker.cells.set v.cell (s.received u.tracker.catalog queue).unwatched ∧
      (u.tracker.poll w).watchers = u.tracker.watchers.set w { v with stage := .finished } := by
  obtain ⟨ch, hch, rfl⟩ := hu.stream
  have hc := h.stopped.cancelled v (List.mem_of_getElem? hu.watcher) (by rw [hu.stage]; nofun)
  obtain ⟨hcells, hwatchers, -⟩ := Tracker.poll_finishing hu.watcher hu.stage hs
    (Tracker.takeEvents_stream hch) (.inr (.inr hc))
  exact ⟨hcells, hwatchers⟩

theorem shutDown (h : Draining t u) (ht : t.Sound) : ShutDown t u where
  cancelled := h.stopped.cancelled
  watchers := h.length
  streams := h.streams
  polled {w v} hw hstage := by
    have hw₀ := h.running hw hstage
    obtain ⟨s, hs, -⟩ := h.sound.tracker.kept.watcher v (List.mem_of_getElem? hw)
    refine ⟨hw₀, s, ?_⟩
    cases hstage' : v.stage with
    | finished => exact absurd hstage' hstage
    | starting =>
      obtain ⟨hcells, hwatchers⟩ := h.poll_starting hw hstage' hs
      refine ⟨[], hs, .inl rfl, ?_, hwatchers⟩
      rw [hcells, Tracker.queued, hstage']
      rfl
    | following j =>
      obtain ⟨ch, hch, -⟩ := ht.tracker.links.follows v (List.mem_of_getElem? hw₀) hstage'
      have hfollowing : t.tracker.Following w v j ch.queue := ⟨hw₀, hstage', ch, hch, rfl⟩
      rw [hfollowing.queued]
      obtain hu | ⟨k, event, hk, -, hu⟩ := h.queued hw hfollowing
      · obtain ⟨hcells, hwatchers⟩ := h.poll_following hu hs
        exact ⟨[], hs, .inl rfl, by rw [List.append_nil, hcells], hwatchers⟩
      · obtain ⟨hcells, hwatchers⟩ := h.poll_following hu hs
        exact ⟨[event], hs, .inr ⟨k, j, event, rfl, hk, rfl⟩, hcells, hwatchers⟩
  idle hw hfinished := Tracker.poll_finished hw hfinished
  unopened hw hstage hs := (h.poll_starting hw hstage hs).1
  unwatched hfinished s hs := by
    obtain ⟨i, hi⟩ := List.mem_iff_getElem?.1 hs
    have hwatched := (h.sound.tracker.kept.cell hi).watched
    have hnone : unfinished u.tracker.watchers i = 0 := List.countP_eq_zero.2 fun v hv => by
      simp [hfinished v hv]
    rw [hnone] at hwatched
    exact Bool.eq_false_iff.2 fun hw => by simp [hw] at hwatched
  subscribers := h.silent.subscriberCount
  published taskId event := by
    rw [publish_eq, (h.silent.publication taskId event).1]

end Draining

/-- A shutdown is final, whatever happened before and whatever happens afterwards. -/
theorem shutdown_is_final (config : TrackerConfig) (catalog : Catalog) (runtime : Bool)
    (capacity : Nat) (before after : List Turn) :
    ShutDown ((LocalTracker.new config catalog runtime capacity).turns before)
      ((((LocalTracker.new config catalog runtime capacity).turns before).turn
        (.step (.tracker .shutdown))).turns after) := by
  have sound := (Sound.new config catalog runtime capacity).turns before
  obtain ⟨run, hheeded, hrun⟩ :=
    (LocalTracker.new config catalog runtime capacity).exists_moves before
  have guarded : ((LocalTracker.new config catalog runtime capacity).turns before).tracker.Guarded := by
    rw [hrun]
    exact (Tracker.Guarded.new _ _ _ _).moves hheeded
  exact ((sound.shutdown guarded).turns sound after).shutDown sound

end LocalTracker

end TaskWatch
