import TaskWatch.Proofs.Broker.Advances
import TaskWatch.Proofs.Tracker.Apart
import TaskWatch.Proofs.Tracker.Proper

/-!
# The broker of a tracker in use

The streams of a broker that a tracker watches are in order: each has a token of its own and one
place at most, and no queue is longer than it may be (`LocalTracker.InOrder`). Every turn keeps this,
together with all that is known of the tracker.

* `InOrder.turn`, `InOrder.turns`: every turn, and every run;
* `InOrder.live`: a stream stays live as long as it is not cancelled and its task gets nothing;
* `InOrder.capacity_turn`: how many events may be queued is given once and for all.
-/

namespace TaskWatch

namespace Broker

variable {b b' : Broker} {p : Publication} {r : PublicationState × Broker}

theorem Bounded.takeEvents (h : b.Bounded) (j : Nat) : (b.takeEvents j).2.2.Bounded := by
  unfold Broker.takeEvents
  split
  · next ch hj => exact h.of_set hj rfl rfl (Nat.zero_le _)
  · exact h

theorem Bounded.opened (h : b.Bounded) (taskId : String) (token : Token) :
    (b.opened taskId token).Bounded := by
  intro ch hm
  rw [streams_opened] at hm
  obtain hm | hm := List.mem_append.1 hm
  · exact h ch hm
  · rw [List.mem_singleton.1 hm]
    exact ⟨Nat.le_max_right _ _, Nat.zero_le _⟩

theorem Bounded.watch (h : b.Bounded) (taskId : String) (token : Token) :
    (b.watch taskId token).2.Bounded := by
  rcases hopen : b.watch taskId token with ⟨answer, b'⟩
  cases answer with
  | error e =>
    obtain ⟨rejections, rfl⟩ := watch_eq_error hopen
    exact h
  | ok j =>
    obtain ⟨-, -, rfl⟩ := watch_eq_ok hopen
    exact h.prune.opened taskId token

theorem capacity_watch (b : Broker) (taskId : String) (token : Token) :
    (b.watch taskId token).2.capacity = b.capacity := by
  rcases hopen : b.watch taskId token with ⟨answer, b'⟩
  cases answer with
  | error e =>
    obtain ⟨rejections, rfl⟩ := watch_eq_error hopen
    rfl
  | ok j =>
    obtain ⟨-, -, rfl⟩ := watch_eq_ok hopen
    exact (Passes.addLive _ taskId _).capacity.trans (Passes.prune b).capacity

/-- A publication that goes on finds room, or waits for it. -/
theorem GoesOn.bounded (hgoes : GoesOn b p r) (h : b.Bounded) : r.2.Bounded := by
  obtain rfl | rfl := hgoes
  · exact h.advance p p.pending
  obtain e | ⟨i, rest, ch, -, hch, -, hroom, e⟩ := b.land_cases p
  · rw [e]
    exact h.advance p p.pending
  · have hlt : ch.queue.length < ch.capacity := by simpa [Channel.isFull] using hroom
    have landed : Channel.Bounded { ch with queue := ch.queue ++ [p.event] } := by
      refine ⟨(h.getElem? hch).room, ?_⟩
      rw [List.length_append]
      exact hlt
    rw [e]
    exact ((h.setStream landed i).closeStream i).advance _ rest

end Broker

namespace Tracker

variable {t t' : Tracker Broker} {actor : Option Nat} {pending : List Nat}

theorem Change.bounded (hc : Change actor t t') (h : t.source.Bounded) : t'.source.Bounded :=
  hc.source_keeps (fun _ h => h) (fun taskId token h => h.watch taskId token)
    (fun stream h => h.takeEvents stream) (fun stream h => h.dropStream stream) h

/-- Every change leaves the broker in order. -/
theorem Change.orderly (hc : Change actor t t') (proper : t.Proper)
    (h : t.source.Orderly pending) : t'.source.Orderly pending := by
  have owned := proper.owned.change proper.guarded hc
  obtain ⟨hg, hlive⟩ | ⟨v, hv, hstage, -, e⟩ := hc.source
  · refine ⟨h.keyed.of_live hlive, h.filed.grows hg hlive, hc.bounded h.bounded, fun hj hu => ?_,
      fun hi hj e => ?_, fun hj => ?_, owned.cancelled⟩
    · obtain ⟨ch, hch, same, hopen⟩ := hg.stream_before hj
      rw [same.token] at hu
      exact hopen hu (h.opened hch (hg.uncancelled hu))
    · obtain ⟨ch, hch, same, -⟩ := hg.stream_before hi
      obtain ⟨ch', hch', same', -⟩ := hg.stream_before hj
      exact h.apart hch hch' (same.token.symm.trans (e.trans same'.token))
    · obtain ⟨ch, hch, same, -⟩ := hg.stream_before hj
      rw [same.token]
      exact Nat.lt_of_lt_of_le (h.issued hch) hg.issued
  · obtain ⟨w, hw⟩ := List.mem_iff_getElem?.1 hv
    have hpass := Broker.Passes.prune t.source
    rw [e]
    refine h.prune.opened_of_lt ?_ (fun {j ch} hj htoken => ?_) v.taskId
    · rw [hpass.issued]
      exact proper.guarded.armed.issued v hv
    · refine proper.owned.not_owned hw hstage (hpass.grows.streamTokens ?_)
      exact List.mem_map.2 ⟨ch, List.mem_of_getElem? hj, htoken⟩

theorem Proper.orderly_changes (proper : t.Proper) (h : t.source.Orderly pending)
    (hc : Changes actor t t') : t'.source.Orderly pending := by
  induction hc with
  | refl => exact h
  | tail hcs hc ih => exact hc.orderly (proper.changes hcs) ih

/-- Every step leaves the broker in order. -/
theorem Proper.orderly_step (proper : t.Proper) (h : t.source.Orderly pending) (s : TrackerStep) :
    (t.step s).source.Orderly pending := by
  obtain ⟨u, hf, hc⟩ | ⟨millis, rfl⟩ := t.step_cases s
  · have hu : u.source.Orderly pending := by rwa [hf.same.1]
    exact (proper.forgets hf).orderly_changes hu hc
  · exact h

/-- A stream stays live as long as it is not cancelled. -/
theorem Change.live (hc : Change actor t t') {j : Nat} {ch : Channel} {taskId : String}
    (h : t.source.Orderly pending) (hch : t.source.streams[j]? = some ch)
    (hu : t.source.tokens.isCancelled ch.token = false) (hj : j ∈ t.source.liveStreams taskId) :
    j ∈ t'.source.liveStreams taskId := by
  obtain ⟨-, hlive⟩ | ⟨v, -, -, -, e⟩ := hc.source
  · rwa [Broker.liveStreams_of_live hlive]
  · have hpruned : j ∈ t.source.prune.liveStreams taskId := by
      rw [Broker.liveStreams_prune h.keyed, Broker.mem_subscribers]
      exact ⟨hj, (Broker.streamCancelled_eq hch).trans hu⟩
    rw [e]
    show j ∈ (Broker.addLive _ _ _).liveStreams taskId
    rw [Broker.liveStreams_addLive]
    split
    · next same =>
      subst same
      exact List.mem_append_left _ hpruned
    · exact hpruned

/-- As long as a stream is not cancelled by any of a row of changes, it stays live. -/
theorem Proper.live_changes (proper : t.Proper) (h : t.source.Orderly pending)
    (hc : Changes actor t t') {j : Nat} {ch : Channel} {taskId : String}
    (hch : t.source.streams[j]? = some ch) (hj : j ∈ t.source.liveStreams taskId)
    (hu : t'.source.tokens.isCancelled ch.token = false) :
    j ∈ t'.source.liveStreams taskId ∧ ∃ ch', t'.source.streams[j]? = some ch' ∧
      ch'.token = ch.token := by
  induction hc with
  | refl => exact ⟨hj, ch, hch, rfl⟩
  | tail hcs hc ih =>
    have hgrows := (Watches.of_change hc).tokens
    have hu' := eq_false_of_ne_true fun e => absurd (hu.symm.trans (hgrows.cancelled e)) (by decide)
    obtain ⟨hj', ch', hch', htoken⟩ := ih hu'
    refine ⟨hc.live (proper.orderly_changes h hcs) hch' (htoken ▸ hu') hj', ?_⟩
    obtain ⟨ch'', hch'', same⟩ := (LocalTracker.Moves.of_change hc []).stream hch'
    exact ⟨ch'', hch'', same.token.trans htoken⟩

theorem Proper.live_step (proper : t.Proper) (h : t.source.Orderly pending) {j : Nat} {ch : Channel}
    {taskId : String} (hch : t.source.streams[j]? = some ch) (hj : j ∈ t.source.liveStreams taskId)
    (s : TrackerStep) (hu : (t.step s).source.tokens.isCancelled ch.token = false) :
    j ∈ (t.step s).source.liveStreams taskId := by
  obtain ⟨u, hf, hc⟩ | ⟨millis, rfl⟩ := t.step_cases s
  · have hsource := hf.same.1
    exact ((proper.forgets hf).live_changes (hsource ▸ h) hc (hsource ▸ hch) (hsource ▸ hj) hu).1
  · exact hj

theorem capacity_step (t : Tracker Broker) (s : TrackerStep) :
    (t.step s).source.capacity = t.source.capacity := by
  refine step_keeps (P := fun t' : Tracker Broker => t'.source.capacity = t.source.capacity)
    (fun hc h => ?_) (fun h _ _ hsource => hsource ▸ h) rfl s
  refine hc.source_keeps (P := fun b => b.capacity = t.source.capacity) (fun _ h => h)
    (fun {b} taskId token h => ?_) (fun {b} stream h => ?_) (fun {b} stream h => ?_) h
  · exact (b.capacity_watch taskId token).trans h
  · exact (Broker.Passes.takeEvents b stream).capacity.trans h
  · exact (Broker.Passes.dropStream b stream).capacity.trans h

end Tracker

namespace LocalTracker

/-- Whether a turn publishes an event of a task, or closes the task. -/
def Turn.feeds (taskId : String) : Turn → Bool
  | .step (.publish task _) | .step (.close task) => task == taskId
  | _ => false

/-- The broker of a tracker is in order, as is the tracker. -/
structure InOrder (t : LocalTracker) : Prop where
  sound : t.Sound
  proper : t.tracker.Proper
  orderly : t.tracker.source.Orderly (inFlight t.publications)

namespace InOrder

variable {t : LocalTracker}

theorem new (config : TrackerConfig) (catalog : Catalog) (runtime : Bool) (capacity : Nat) :
    (LocalTracker.new config catalog runtime capacity).InOrder where
  sound := .new config catalog runtime capacity
  proper := .new config catalog runtime rfl fun _ => rfl
  orderly := .new capacity

/-- Every turn leaves the tracker and its broker in order. -/
theorem turn (h : t.InOrder) (r : Turn) : (t.turn r).InOrder := by
  have sound := h.sound.turn r
  obtain ⟨s, rfl⟩ | ⟨hs, b, htracker, hpass⟩ := t.turn_cases r
  · exact ⟨sound, h.proper.step s, h.proper.orderly_step h.orderly s⟩
  · refine ⟨sound, ?_, ?_⟩
    · rw [htracker]
      exact h.proper.source hpass.grows.streamTokens hpass.grows.tokens hpass.cancelsOnly
    · have filed := sound.tracker.filed
      have inOrder : b.Keyed → b.Bounded →
          (t.turn r).tracker.source.Orderly (inFlight (t.turn r).publications) := fun hkeyed hb => by
        rw [htracker] at filed ⊢
        exact h.orderly.passes hpass hkeyed filed hb
      have same : ∀ {b' : Broker}, (t.turn r).tracker.source = b' → b' = b := fun e => by
        rw [← e, htracker]
      cases hi : r.goesOn with
      | some i =>
        by_cases hp : ∃ p, t.publications[i]? = some (.inl p)
        · obtain ⟨p, hp⟩ := hp
          obtain ⟨r', hgoes, e⟩ := turn_goesOn hi hp
          obtain ⟨hterminal, hkept⟩ := h.sound.waits p (List.mem_of_getElem? hp)
          obtain rfl := same (congrArg (·.tracker.source) e)
          exact inOrder (h.orderly.keyed.of_live (hgoes.outcome.live_eq hterminal hkept))
            (hgoes.bounded h.orderly.bounded)
        · rw [turn_goesOn_of_ne hi fun p hp' => hp ⟨p, hp'⟩]
          exact h.orderly
      | none =>
        cases r with
        | land => cases hi
        | step s =>
          cases s with
          | tracker s => exact absurd rfl (hs s)
          | publish taskId event =>
            have published := h.orderly.publication taskId event
            obtain rfl := same (congrArg (·.tracker.source) (publish_eq t taskId event))
            exact inOrder published.keyed published.bounded
          | resume => cases hi
          | close taskId =>
            have closed := h.orderly.close taskId
            obtain rfl := same rfl
            exact inOrder closed.keyed closed.bounded
          | reject taskId message =>
            obtain rfl := same rfl
            exact inOrder h.orderly.keyed h.orderly.bounded

theorem turns (h : t.InOrder) (rs : List Turn) : (t.turns rs).InOrder := by
  induction rs generalizing t with
  | nil => exact h
  | cons r rs ih => exact ih (h.turn r)

/-! ## What others do to a stream -/

variable {r : Turn} {j : Nat} {ch : Channel} {taskId : String}

/-- A live stream is touched only by what its task is fed. -/
theorem not_touched (h : t.InOrder) (hj : j ∈ t.tracker.source.liveStreams taskId)
    (hr : r.feeds taskId = false) : j ∉ t.touchedBy r := by
  have apart : ∀ {task : String}, (task == taskId) = false →
      j ∉ t.tracker.source.liveStreams task := fun hne hm => by
    obtain ⟨ch, hch, rfl⟩ := h.orderly.filed.live.liveStreams hj
    obtain ⟨ch', hch', rfl⟩ := h.orderly.filed.live.liveStreams hm
    obtain rfl := Option.some.inj (hch'.symm.trans hch)
    rw [beq_self_eq_true] at hne
    cases hne
  cases hi : r.goesOn with
  | some i =>
    rw [t.touchedBy_goesOn hi]
    intro hm
    cases hs : t.publications[i]? with
    | none =>
      rw [hs] at hm
      exact absurd hm List.not_mem_nil
    | some state =>
      rw [hs] at hm
      exact (List.nodup_append.1 h.orderly.filed.nodup).2.2 j (Broker.mem_held hj) j
        (mem_inFlight hs hm) rfl
  | none =>
    cases r with
    | land => cases hi
    | step s =>
      cases s with
      | tracker | reject => exact List.not_mem_nil
      | publish | close => exact apart hr
      | resume => cases hi

/-- A turn of the broker takes no stream from a task that it feeds nothing. -/
theorem liveStreams_turn (h : t.InOrder) (hs : ∀ s, r ≠ .step (.tracker s))
    (hr : r.feeds taskId = false) :
    (t.turn r).tracker.source.liveStreams taskId = t.tracker.source.liveStreams taskId := by
  have other : ∀ {task : String}, (task == taskId) = false → ∀ {b : Broker},
      b.live = (t.tracker.source.withoutTask task).live →
      b.liveStreams taskId = t.tracker.source.liveStreams taskId := fun hne b hlive => by
    rw [Broker.liveStreams_of_live hlive, Broker.liveStreams_withoutTask, if_neg]
    rintro rfl
    rw [beq_self_eq_true] at hne
    cases hne
  cases hi : r.goesOn with
  | some i =>
    by_cases hp : ∃ p, t.publications[i]? = some (.inl p)
    · obtain ⟨p, hp⟩ := hp
      obtain ⟨r', hgoes, e⟩ := turn_goesOn hi hp
      obtain ⟨hterminal, hkept⟩ := h.sound.waits p (List.mem_of_getElem? hp)
      rw [e]
      exact Broker.liveStreams_of_live (hgoes.outcome.live_eq hterminal hkept) taskId
    · rw [turn_goesOn_of_ne hi fun p hp' => hp ⟨p, hp'⟩]
  | none =>
    cases r with
    | land => cases hi
    | step s =>
      cases s with
      | tracker s => exact absurd rfl (hs s)
      | publish task event =>
        have hout := t.tracker.source.publication_outcome task event
        show (t.publish task event).tracker.source.liveStreams taskId = _
        rw [publish_eq]
        show (t.tracker.source.publication task event).2.liveStreams taskId = _
        generalize t.tracker.source.publication task event = r' at hout
        cases hout with
        | waits _ _ _ _ _ live => exact other hr live
        | ends taken _ _ live =>
          have hne : taskId ≠ task := fun e => by
            rw [e, Turn.feeds, beq_self_eq_true] at hr
            cases hr
          have hadded := (t.tracker.source.withoutTask task).liveStreams_addLive task taskId taken
          rw [if_neg hne] at hadded
          exact ((Broker.liveStreams_of_live live taskId).trans hadded).trans (other hr rfl)
      | resume => cases hi
      | close task => exact other hr (Broker.live_close t.tracker.source task)
      | reject => rfl

/-- A stream stays live as long as it is not cancelled and its task gets nothing. -/
theorem live (h : t.InOrder) (hch : t.tracker.source.streams[j]? = some ch)
    (hj : j ∈ t.tracker.source.liveStreams taskId) (hr : r.feeds taskId = false)
    (hu : (t.turn r).tracker.source.tokens.isCancelled ch.token = false) :
    j ∈ (t.turn r).tracker.source.liveStreams taskId := by
  obtain ⟨s, rfl⟩ | ⟨hs, -⟩ := t.turn_cases r
  · exact h.proper.live_step h.orderly hch hj s hu
  · rwa [h.liveStreams_turn hs hr]

/-- How many events may be queued on a stream that is opened is given once and for all. -/
theorem capacity_turn (t : LocalTracker) (r : Turn) :
    (t.turn r).tracker.source.capacity = t.tracker.source.capacity := by
  obtain ⟨s, rfl⟩ | ⟨-, b, htracker, hpass⟩ := t.turn_cases r
  · exact t.tracker.capacity_step s
  · rw [htracker]
    exact hpass.capacity

theorem capacity_turns (t : LocalTracker) (rs : List Turn) :
    (t.turns rs).tracker.source.capacity = t.tracker.source.capacity := by
  induction rs generalizing t with
  | nil => rfl
  | cons r rs ih => exact (ih (t.turn r)).trans (capacity_turn t r)

end InOrder

end LocalTracker

end TaskWatch
