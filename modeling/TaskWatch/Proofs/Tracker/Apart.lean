import TaskWatch.Proofs.Tracker.Poll
import TaskWatch.Proofs.Tracker.Watchers

/-!
# What others leave alone

A watcher that follows a stream is alone with it: whatever the caller and the other watchers do, it
goes on to follow the stream, and nothing but publications changes what is queued there. The other
watchers do not cancel its token either; only the caller may. And once a publication has taken the
stream, no other publication comes to it (`LocalTracker.Sound.not_touched`).
-/

namespace TaskWatch

/-- Different watchers have different tokens. -/
theorem Linked.token_ne {watchers : List Watcher} {cells : List CallState} {b : Broker}
    (h : Linked watchers cells b) {u w : Nat} {a v : Watcher} (hu : watchers[u]? = some a)
    (hw : watchers[w]? = some v) (hne : u ≠ w) : a.token ≠ v.token := by
  intro e
  have hlt : u < (watchers.map (·.token)).length := by
    rw [List.length_map]
    exact (List.getElem?_eq_some_iff.1 hu).1
  refine hne ((List.getElem?_inj hlt h.tokens).1 ?_)
  rw [List.getElem?_map, List.getElem?_map, hu, hw, Option.map_some, Option.map_some, e]

namespace Tracker

/-- A watcher follows a stream in which some events are queued. -/
structure Following (t : Tracker Broker) (w : Nat) (v : Watcher) (j : Nat) (queue : List Event) :
    Prop where
  watcher : t.watchers[w]? = some v
  stage : v.stage = .following j
  stream : ∃ ch, t.source.streams[j]? = some ch ∧ ch.queue = queue

namespace Following

variable {t t' : Tracker Broker} {w j : Nat} {v : Watcher} {queue : List Event}

/-- The stream of a watcher has its token. -/
theorem channel (h : t.Following w v j queue) (links : t.Links) :
    ∃ ch, t.source.streams[j]? = some ch ∧ ch.queue = queue ∧ ch.token = v.token ∧
      ch.taskId = v.taskId := by
  obtain ⟨ch, hch, hqueue⟩ := h.stream
  obtain ⟨ch', hch', htoken, htask⟩ := links.follows v (List.mem_of_getElem? h.watcher) h.stage
  obtain rfl : ch' = ch := Option.some.inj (hch'.symm.trans hch)
  exact ⟨ch', hch, hqueue, htoken, htask⟩

/-- Other streams have other tokens, as long as the token is not cancelled. -/
theorem token_ne (h : t.Following w v j queue) (links : t.Links)
    (htoken : t.source.tokens.isCancelled v.token = false) {i : Nat} (hij : i ≠ j) {ch : Channel}
    (hi : t.source.streams[i]? = some ch) : ch.token ≠ v.token := by
  intro e
  obtain ⟨-, u, hu, hstage⟩ := links.followed hi (e ▸ htoken)
  obtain ⟨ch', hch', htoken', -⟩ := links.follows u hu hstage
  obtain rfl : ch' = ch := Option.some.inj (hch'.symm.trans hi)
  obtain rfl := links.unique hu (List.mem_of_getElem? h.watcher) (htoken'.symm.trans e)
  exact hij (WatcherStage.following.inj (hstage.symm.trans h.stage))

/-- Other watchers follow other streams. -/
theorem stream_ne (h : t.Following w v j queue) (links : t.Links) {u i : Nat} {a : Watcher}
    (hu : t.watchers[u]? = some a) (hstage : a.stage = .following i) (hne : u ≠ w) : i ≠ j := by
  rintro rfl
  obtain ⟨ch, hch, -, htoken, -⟩ := h.channel links
  obtain ⟨ch', hch', htoken', -⟩ := links.follows a (List.mem_of_getElem? hu) hstage
  obtain rfl : ch' = ch := Option.some.inj (hch'.symm.trans hch)
  exact links.token_ne hu h.watcher hne (htoken'.symm.trans htoken)

/-- As long as it is not cancelled, the watcher takes what is queued when it is polled, and waits for
more. -/
theorem poll_eq (h : t.Following w v j queue) (links : t.Links)
    (htoken : t.source.tokens.isCancelled v.token = false) {s : CallState}
    (hs : t.cells[v.cell]? = some s) :
    ∃ ch, t.source.streams[j]? = some ch ∧ ch.queue = queue ∧ t.poll w = { t with
      cells := t.cells.set v.cell (s.fold t.catalog queue)
      source := t.source.setStream j { ch with queue := [] } } := by
  obtain ⟨ch, hch, rfl, htok, -⟩ := h.channel links
  have hopen := (links.followed hch (htok ▸ htoken)).1
  exact ⟨ch, hch, rfl, poll_quiet h.watcher h.stage hs hch hopen htoken⟩

/-- A change of the broker that does not touch the stream. -/
theorem source (h : t.Following w v j queue) {touched : List Nat} {b : Broker}
    (hpass : t.source.Passes touched b) (hnot : j ∉ touched) :
    Following { t with source := b } w v j queue := by
  obtain ⟨ch, hch, hqueue⟩ := h.stream
  obtain ⟨ch', hch', hqueue'⟩ := hpass.queue hch hnot
  exact ⟨h.watcher, h.stage, ch', hch', hqueue'.trans hqueue⟩

/-- Nor does it cancel the token, if it is not cancelled already. -/
theorem uncancelled_source (h : t.Following w v j queue) (links : t.Links) {touched : List Nat}
    {b : Broker} (hpass : t.source.Passes touched b) (hnot : j ∉ touched)
    (htoken : t.source.tokens.isCancelled v.token = false) :
    b.tokens.isCancelled v.token = false := by
  refine eq_false_of_ne_true fun hc => ?_
  rcases hpass.cause hc with hc | ⟨i, hi, ch, hch, e⟩
  · exact absurd (htoken.symm.trans hc) (by decide)
  · exact h.token_ne links htoken (fun hij => hnot (hij ▸ hi)) hch e

/-- What has another source, other cells and the like, but the same watchers and streams. -/
theorem of_eq (h : t.Following w v j queue) (hwatchers : t'.watchers = t.watchers)
    (hstreams : t'.source.streams = t.source.streams) : t'.Following w v j queue := by
  obtain ⟨ch, hch, hqueue⟩ := h.stream
  exact ⟨hwatchers ▸ h.watcher, h.stage, ch, hstreams ▸ hch, hqueue⟩

/-- Another watcher finishes. -/
theorem finishWatcher (h : t.Following w v j queue) {u : Nat} (hu : u ≠ w) (a : Watcher) :
    (t.finishWatcher u a).Following w v j queue := by
  obtain ⟨ch, hch, hqueue⟩ := h.stream
  refine ⟨?_, h.stage, ch, (t.source_finishWatcher u a).symm ▸ hch, hqueue⟩
  rw [watchers_finishWatcher, List.getElem?_set_ne hu]
  exact h.watcher

theorem markDone (h : t.Following w v j queue) (i : Nat) :
    (t.markDone i).Following w v j queue := by
  cases hs : t.cells[i]? with
  | none => rwa [markDone_of_none hs]
  | some s =>
    rw [markDone_eq hs]
    exact h.of_eq rfl rfl

/-- Others leave the stream and its watcher alone. -/
theorem change {actor : Option Nat} (h : t.Following w v j queue) (links : t.Links)
    (hc : Change actor t t') (hactor : actor ≠ some w) : t'.Following w v j queue := by
  obtain ⟨ch, hch, hqueue⟩ := h.stream
  cases hc with
  | learn | close | runtime => exact h.of_eq rfl rfl
  | create =>
    rw [ensureCell_frame]
    exact h.of_eq rfl rfl
  | markDone _ i => exact h.markDone i
  | endCall => exact h.markDone _
  | cancelWatch _ i =>
    cases hs : t.cells[i]? with
    | none => rwa [cancelWatch_of_none hs]
    | some s =>
      rw [cancelWatch_eq hs]
      exact h.of_eq rfl rfl
  | startWatcher _ i =>
    have started : ∀ a : Watcher, (t.watchers ++ [a])[w]? = some v := fun a => by
      rw [List.getElem?_append_left (List.getElem?_eq_some_iff.1 h.watcher).1, h.watcher]
    rcases t.startWatcher_cases i with e | ⟨s, id, -, -, -, -, -, ⟨-, e⟩ | ⟨-, e⟩⟩
    · rwa [e]
    · rw [e]
      exact ⟨started _, h.stage, ch, hch, hqueue⟩
    · rw [e]
      exact h.of_eq rfl rfl
  | @openStream _ u a stream source hu hstage hopen =>
    have hne : u ≠ w := fun e => hactor (congrArg some e)
    obtain ⟨-, -, rfl⟩ := Broker.watch_eq_ok hopen
    obtain ⟨ch', hch', hqueue'⟩ := (Broker.Passes.prune t.source).queue hch List.not_mem_nil
    refine ⟨?_, h.stage, ch', ?_, hqueue'.trans hqueue⟩
    · exact (List.getElem?_set_ne hne).trans h.watcher
    · show (t.source.prune.opened a.taskId a.token).streams[j]? = some ch'
      rw [Broker.streams_opened, List.getElem?_append_left (List.getElem?_eq_some_iff.1 hch').1, hch']
  | failStream hu hstage hopen =>
    obtain ⟨rejections, rfl⟩ := Broker.watch_eq_error hopen
    exact h.of_eq rfl rfl
  | @giveUp _ u a => exact h.finishWatcher (fun e => hactor (congrArg some e)) a
  | @takeEvents _ u a stream hu hstage =>
    have hne := h.stream_ne links hu hstage fun e => hactor (congrArg some e)
    exact h.source (Broker.Passes.takeEvents t.source stream)
      fun hm => hne (List.mem_singleton.1 hm).symm
  | @release _ u a stream hu hstage =>
    have hne : u ≠ w := fun e => hactor (congrArg some e)
    have hstream := h.stream_ne links hu hstage hne
    have hdropped := h.source (Broker.Passes.dropStream t.source stream)
      fun hm => hstream (List.mem_singleton.1 hm).symm
    exact hdropped.finishWatcher hne a

/-- Another watcher does not cancel the token. -/
theorem uncancelled_change {u : Nat} (h : t.Following w v j queue) (links : t.Links) (kept : t.Kept)
    (hc : Change (some u) t t') (hne : u ≠ w)
    (htoken : t.source.tokens.isCancelled v.token = false) :
    t'.source.tokens.isCancelled v.token = false := by
  cases hc with
  | learn | runtime => exact htoken
  | @openStream _ _ a stream source hu hstage hopen =>
    obtain ⟨-, -, rfl⟩ := Broker.watch_eq_ok hopen
    show (t.source.prune.opened a.taskId a.token).tokens.isCancelled v.token = false
    rw [Broker.tokens_opened]
    exact h.uncancelled_source links (Broker.Passes.prune t.source) List.not_mem_nil htoken
  | failStream hu hstage hopen =>
    obtain ⟨rejections, rfl⟩ := Broker.watch_eq_error hopen
    exact htoken
  | giveUp =>
    rw [source_finishWatcher]
    exact htoken
  | @takeEvents _ _ a stream hu hstage =>
    have hstream := h.stream_ne links hu hstage hne
    exact h.uncancelled_source links (Broker.Passes.takeEvents t.source stream)
      (fun hm => hstream (List.mem_singleton.1 hm).symm) htoken
  | @endCall _ _ a stream hu hstage =>
    have hm := List.mem_of_getElem? hu
    have hrunning : a.stage ≠ .finished := by rw [hstage]; nofun
    obtain ⟨s, hs, -⟩ := kept.watcher a hm
    rw [source_markDone hs]
    cases htok : s.token with
    | none => exact htoken
    | some token =>
      -- The token of the cell is that of its only running watcher.
      obtain ⟨b, hb, hcell, hstage', rfl⟩ := links.cell hs htok
      obtain ⟨k, hk⟩ := List.mem_iff_getElem?.1 hb
      have hku := getElem?_inj_of_countP (kept.unfinished_le_one a.cell) hk hu
        (by simp [hcell, hstage']) (by simp [hrunning])
      obtain rfl : b = a := by rw [hku] at hk; exact Option.some.inj (hk.symm.trans hu)
      show (t.source.tokens.cancel b.token).isCancelled v.token = false
      rw [Tokens.isCancelled_cancel, htoken, Bool.or_false]
      exact beq_eq_false_iff_ne.2 (links.token_ne hu h.watcher hne).symm
  | @release _ _ a stream hu hstage =>
    have hstream := h.stream_ne links hu hstage hne
    rw [source_finishWatcher]
    exact h.uncancelled_source links (Broker.Passes.dropStream t.source stream)
      (fun hm => hstream (List.mem_singleton.1 hm).symm) htoken

theorem changes {actor : Option Nat} {pending : List Nat} (h : t.Following w v j queue)
    (sound : t.Sound pending) (hc : Changes actor t t') (hactor : actor ≠ some w) :
    t'.Following w v j queue := by
  induction hc with
  | refl => exact h
  | tail hcs hc ih => exact ih.change (sound.changes hcs).links hc hactor

theorem uncancelled_changes {u : Nat} {pending : List Nat} (h : t.Following w v j queue)
    (sound : t.Sound pending) (hc : Changes (some u) t t') (hne : u ≠ w)
    (htoken : t.source.tokens.isCancelled v.token = false) :
    t'.source.tokens.isCancelled v.token = false := by
  have hactor : some u ≠ some w := fun e => hne (Option.some.inj e)
  induction hc with
  | refl => exact htoken
  | tail hcs hc ih =>
    have sound' := sound.changes hcs
    exact (h.changes sound hcs hactor).uncancelled_change sound'.links sound'.kept hc hne ih

/-- A step of the caller or of another watcher. -/
theorem step {pending : List Nat} (h : t.Following w v j queue) (sound : t.Sound pending)
    (s : TrackerStep) (hs : s.actor ≠ some w) : (t.step s).Following w v j queue := by
  obtain ⟨u, hf, hc⟩ | ⟨millis, rfl⟩ := t.step_cases s
  · obtain ⟨hsource, hwatchers, -⟩ := hf.same
    have hu : u.Following w v j queue := h.of_eq hwatchers (by rw [hsource])
    exact hu.changes (sound.forgets hf) hc hs
  · exact h.of_eq rfl rfl

/-- A step that is none of its own does not cancel the token, unless the caller does. -/
theorem uncancelled_step {s : TrackerStep} {pending : List Nat} (h : t.Following w v j queue)
    (sound : t.Sound pending) (hs : s.actor ≠ some w)
    (hcaller : s.actor = none → (t.step s).source.tokens.isCancelled v.token = false)
    (htoken : t.source.tokens.isCancelled v.token = false) :
    (t.step s).source.tokens.isCancelled v.token = false := by
  cases ha : s.actor with
  | none => exact hcaller ha
  | some u =>
    cases s with
    | poll u' =>
      exact h.uncancelled_changes sound (t.poll_changes u') (fun e => hs (congrArg some e)) htoken
    | _ => cases ha

end Following

end Tracker

namespace LocalTracker

/-! ## Streams that a publication has yet to come to -/

/-- Whether a publication has yet to come to a stream. -/
def Awaits (t : LocalTracker) (p j : Nat) : Prop :=
  ∃ q, t.publications[p]? = some (.inl q) ∧ j ∈ q.pending

/-- The streams that a turn of the broker may touch. -/
def touchedBy (t : LocalTracker) : Turn → List Nat
  | .step (.tracker _) | .step (.reject _ _) => []
  | .step (.publish taskId _) | .step (.close taskId) => t.tracker.source.liveStreams taskId
  | .step (.resume i) | .land i => (t.publications[i]?.map Broker.pendingOf).getD []

theorem touchedBy_goesOn (t : LocalTracker) {r : Turn} {i : Nat} (hr : r.goesOn = some i) :
    t.touchedBy r = (t.publications[i]?.map Broker.pendingOf).getD [] := by
  cases r with
  | land i' =>
    obtain rfl := Option.some.inj hr
    rfl
  | step s =>
    cases s with
    | resume i' =>
      obtain rfl := Option.some.inj hr
      rfl
    | _ => cases hr

/-- A turn of the broker leaves the rest of the tracker as it is. -/
theorem turn_passes (t : LocalTracker) {r : Turn} (hr : ∀ s, r ≠ .step (.tracker s)) :
    ∃ b, (t.turn r).tracker = { t.tracker with source := b } ∧
      t.tracker.source.Passes (t.touchedBy r) b := by
  cases hi : r.goesOn with
  | some i =>
    by_cases hp : ∃ p, t.publications[i]? = some (.inl p)
    · obtain ⟨p, hp⟩ := hp
      obtain ⟨b, hgoes, e⟩ := turn_goesOn hi hp
      refine ⟨b.2, by rw [e]; rfl, ?_⟩
      rw [t.touchedBy_goesOn hi, hp]
      exact hgoes.passes
    · refine ⟨t.tracker.source, ?_, .refl _ _⟩
      rw [turn_goesOn_of_ne hi fun p hp' => hp ⟨p, hp'⟩]
  | none =>
    cases r with
    | land => cases hi
    | step s =>
      cases s with
      | tracker s => exact absurd rfl (hr s)
      | publish taskId event =>
        refine ⟨(t.tracker.source.publication taskId event).2, ?_,
          t.tracker.source.publication_passes taskId event⟩
        show (t.publish taskId event).tracker = _
        rw [publish_eq]
        rfl
      | resume => cases hi
      | close taskId => exact ⟨_, rfl, .close t.tracker.source taskId⟩
      | reject taskId message =>
        exact ⟨t.tracker.source.reject taskId message, rfl, .of_eq (by rfl) (by rfl) (by rfl) []⟩

/-- A turn is a step of the tracker, or one of the broker. -/
theorem turn_cases (t : LocalTracker) (r : Turn) :
    (∃ s, r = .step (.tracker s)) ∨ (∀ s, r ≠ .step (.tracker s)) ∧
      ∃ b, (t.turn r).tracker = { t.tracker with source := b } ∧
        t.tracker.source.Passes (t.touchedBy r) b := by
  by_cases hs : ∃ s, r = .step (.tracker s)
  · exact .inl hs
  · have hbroker : ∀ s, r ≠ .step (.tracker s) := fun s e => hs ⟨s, e⟩
    exact .inr ⟨hbroker, t.turn_passes hbroker⟩

theorem mem_inFlight {publications : List PublicationState} {i j : Nat} {state : PublicationState}
    (hi : publications[i]? = some state) (hj : j ∈ Broker.pendingOf state) :
    j ∈ inFlight publications :=
  List.mem_flatMap.2 ⟨state, List.mem_of_getElem? hi, hj⟩

/-- What a turn touches is live, or awaits the publication that the turn goes on with. -/
theorem of_mem_touchedBy {t : LocalTracker} {r : Turn} {j : Nat} (hj : j ∈ t.touchedBy r) :
    j ∈ t.tracker.source.held ∨
      ∃ i state, r.goesOn = some i ∧ t.publications[i]? = some state ∧
        j ∈ Broker.pendingOf state := by
  cases hi : r.goesOn with
  | some i =>
    rw [t.touchedBy_goesOn hi] at hj
    cases hs : t.publications[i]? with
    | none =>
      rw [hs] at hj
      exact absurd hj List.not_mem_nil
    | some state =>
      rw [hs] at hj
      exact .inr ⟨i, state, rfl, hs, hj⟩
  | none =>
    have live : ∀ taskId, t.tracker.source.liveStreams taskId ⊆ t.tracker.source.held :=
      fun taskId j hj =>
        (t.tracker.source.held_withoutTask taskId).subset (List.mem_append_left _ hj)
    cases r with
    | land => cases hi
    | step s =>
      cases s with
      | tracker | reject => exact absurd hj List.not_mem_nil
      | publish taskId event => exact .inl (live taskId hj)
      | close taskId => exact .inl (live taskId hj)
      | resume => cases hi

/-- Only live streams and those in flight are touched. -/
theorem touchedBy_subset (t : LocalTracker) (r : Turn) :
    t.touchedBy r ⊆ t.tracker.source.held ++ inFlight t.publications := by
  intro j hj
  obtain hj | ⟨i, state, -, hi, hj⟩ := of_mem_touchedBy hj
  · exact List.mem_append_left _ hj
  · exact List.mem_append_right _ (mem_inFlight hi hj)

/-- A stream in flight is touched by its own publication only. -/
theorem Sound.not_touched {t : LocalTracker} (h : t.Sound) {p j : Nat} (hj : t.Awaits p j)
    {r : Turn} (hr : r.goesOn ≠ some p) : j ∉ t.touchedBy r := by
  obtain ⟨q, hq, hmem⟩ := hj
  obtain ⟨before, after, hflight, hset⟩ := inFlight_split hq
  have hnodup := h.tracker.filed.nodup
  rw [List.nodup_append] at hnodup
  obtain ⟨-, hflying, hdisjoint⟩ := hnodup
  intro hm
  obtain hm | ⟨i, state, hi, hstate, hm⟩ := of_mem_touchedBy hm
  · exact hdisjoint j hm j (mem_inFlight hq hmem) rfl
  · have hne : p ≠ i := fun e => hr (e ▸ hi)
    -- Without its own publication the stream would still be in flight.
    have hother : j ∈ inFlight (t.publications.set p (.inr 0)) :=
      mem_inFlight ((List.getElem?_set_ne hne).trans hstate) hm
    rw [hset] at hother
    rw [hflight, List.nodup_append] at hflying
    obtain ⟨-, hrest, hbefore⟩ := hflying
    rw [List.nodup_append] at hrest
    rcases List.mem_append.1 hother with hb | ha
    · exact hbefore j hb j (List.mem_append_left _ hmem) rfl
    · exact hrest.2.2 j hmem j ha rfl

end LocalTracker

end TaskWatch
