import TaskWatch.Proofs.Tracker.Sound

/-!
# One watcher for each call

In every run of a tracker over a broker, whatever the order of its steps and whatever its publications
notice first, the watch flag of a cell says whether a watcher of it is running, and there is never
more than one for a call (`LocalTracker.watchers_exact`).
-/

namespace TaskWatch

/-! ## Counting watchers -/

/-- The stream that a watcher follows. -/
def Watcher.stream? (v : Watcher) : Option Nat :=
  match v.stage with
  | .following j => some j
  | _ => none

namespace Tracker

/-- How many watchers of a call have not finished, over all cells that ever were its own. -/
def running {σ : Type} (t : Tracker σ) (callId : String) : Nat :=
  t.watchers.countP fun v =>
    v.stage != .finished && (t.cells[v.cell]?).any (·.callId == callId)

/-- How many current cells are bound to a task. -/
def bound {σ : Type} (t : Tracker σ) (taskId : String) : Nat :=
  t.calls.countP fun (_, i) => (t.cells[i]?).any (·.taskId == some taskId)

variable {σ : Type} {t : Tracker σ}

/-- A watched cell is the current one of its call. -/
theorem Kept.current (h : t.Kept) {i : Nat} {s : CallState} (hs : t.cells[i]? = some s)
    (hw : s.watching = true) : (s.callId, i) ∈ t.calls := by
  have kept := h.cell hs
  have hnone : planned t.evictions i = 0 := by
    rw [kept.planned, CallState.disposable, hw]
    simp
  have hi : i ∈ t.calls.map (·.2) := kept.current.2 fun e he hcell => by
    exact absurd (by simpa using hcell) (List.countP_eq_zero.1 hnone e he)
  obtain ⟨⟨id, i'⟩, hm, e⟩ := List.mem_map.1 hi
  dsimp only at e
  subst e
  obtain ⟨s₁, hs₁, hid⟩ := h.entry hm
  obtain rfl : s = s₁ := Option.some.inj (hs.symm.trans hs₁)
  exact hid ▸ hm

/-- The cell of a running watcher is watched. -/
theorem Kept.watching (h : t.Kept) {v : Watcher} (hv : v ∈ t.watchers)
    (hstage : v.stage ≠ .finished) : ∃ s, t.cells[v.cell]? = some s ∧ s.watching = true ∧
      s.taskId = some v.taskId := by
  obtain ⟨s, hs, htask⟩ := h.watcher v hv
  refine ⟨s, hs, ?_, htask hstage⟩
  have hpos : 0 < unfinished t.watchers v.cell :=
    List.countP_pos_iff.2 ⟨v, hv, by simp [hstage]⟩
  by_contra hw
  rw [(h.cell hs).watched, if_neg hw] at hpos
  exact absurd hpos (by decide)

theorem Kept.unfinished_le_one (h : t.Kept) (i : Nat) : unfinished t.watchers i ≤ 1 := by
  cases hs : t.cells[i]? with
  | some s =>
    rw [(h.cell hs).watched]
    split <;> omega
  | none =>
    have hnone : unfinished t.watchers i = 0 := List.countP_eq_zero.2 fun v hv hv' => ?_
    · omega
    obtain ⟨s, hs', -⟩ := h.watcher v hv
    rw [Bool.and_eq_true, beq_iff_eq] at hv'
    rw [← hv'.1, hs'] at hs
    cases hs

/-- No call has two running watchers. -/
theorem Kept.running_le_one (h : t.Kept) (callId : String) : t.running callId ≤ 1 := by
  refine countP_le_one fun j k v v' hj hk hv hv' => ?_
  simp only [Bool.and_eq_true, bne_iff_ne, ne_eq, Option.any_eq_true, beq_iff_eq] at hv hv'
  obtain ⟨hstage, s, hs, hid⟩ := hv
  obtain ⟨hstage', s', hs', hid'⟩ := hv'
  have hm := List.mem_of_getElem? hj
  have current : ∀ {v : Watcher} {s : CallState}, v ∈ t.watchers → v.stage ≠ .finished →
      t.cells[v.cell]? = some s → t.cellOf? s.callId = some v.cell := by
    intro v s hv hstage hs
    obtain ⟨s₁, hs₁, hw, -⟩ := h.watching hv hstage
    obtain rfl : s = s₁ := Option.some.inj (hs.symm.trans hs₁)
    exact (cellOf?_eq_some h.keys).2 (h.current hs hw)
  have hcell : v.cell = v'.cell := by
    have h₁ := current hm hstage hs
    have h₂ := current (List.mem_of_getElem? hk) hstage' hs'
    rw [hid] at h₁
    rw [hid'] at h₂
    exact Option.some.inj (h₁.symm.trans h₂)
  exact getElem?_inj_of_countP (h.unfinished_le_one v.cell) hj hk (by simp [hstage])
    (by simp [hcell, hstage'])

/-- The running watchers of a task are no more than the current cells bound to it. -/
theorem Kept.running_le_bound (h : t.Kept) (taskId : String) :
    t.watchers.countP (fun v => v.stage != .finished && v.taskId == taskId) ≤ t.bound taskId := by
  have hnodup : ((t.watchers.filter fun v => v.stage != .finished && v.taskId == taskId).map
      (·.cell)).Nodup := by
    refine List.nodup_iff_count_le_one.2 fun i => ?_
    rw [List.count, List.countP_map, List.countP_filter]
    refine Nat.le_trans (List.countP_mono_left fun v _ hv => ?_) (h.unfinished_le_one i)
    simp only [Function.comp_apply, Bool.and_eq_true] at hv ⊢
    exact ⟨hv.1, hv.2.1⟩
  have hsub : (t.watchers.filter fun v => v.stage != .finished && v.taskId == taskId).map (·.cell) ⊆
      (t.calls.filter fun (_, i) => (t.cells[i]?).any (·.taskId == some taskId)).map (·.2) := by
    intro i hi
    obtain ⟨v, hv, rfl⟩ := List.mem_map.1 hi
    obtain ⟨hv, hp⟩ := List.mem_filter.1 hv
    simp only [Bool.and_eq_true, bne_iff_ne, ne_eq, beq_iff_eq] at hp
    obtain ⟨s, hs, hw, htask⟩ := h.watching hv hp.1
    refine List.mem_map.2 ⟨_, List.mem_filter.2 ⟨h.current hs hw, ?_⟩, rfl⟩
    simp [hs, htask, hp.2]
  have hle := (hnodup.subperm hsub).length_le
  rwa [List.length_map, List.length_map, ← List.countP_eq_length_filter,
    ← List.countP_eq_length_filter] at hle

/-- A task has no more subscribers than current cells bound to it. -/
theorem Sound.subscriberCount_le {t : Tracker Broker} {pending : List Nat} (h : t.Sound pending)
    (taskId : String) : t.source.subscriberCount taskId ≤ t.bound taskId := by
  refine Nat.le_trans ?_ (h.kept.running_le_bound taskId)
  have hnodup : ((t.source.liveStreams taskId).filter (!t.source.streamCancelled ·)).Nodup := by
    obtain ⟨l, hperm, hsub⟩ := t.source.held_withoutTask taskId
    have hheld : t.source.held.Nodup := (List.nodup_append.1 h.filed.nodup).1
    have htaken := hperm.nodup_iff.1 (hheld.sublist hsub)
    exact (List.nodup_append.1 htaken).1.filter _
  -- A subscriber is followed by a watcher of the task.
  have hsub : (t.source.liveStreams taskId).filter (!t.source.streamCancelled ·) ⊆
      (t.watchers.filter fun v => v.stage != .finished && v.taskId == taskId).filterMap
        (·.stream?) := by
    intro j hj
    obtain ⟨hj, hc⟩ := List.mem_filter.1 hj
    obtain ⟨ch, hch, htask⟩ := h.filed.live.liveStreams hj
    rw [Broker.streamCancelled_eq hch, Bool.not_eq_true'] at hc
    obtain ⟨-, v, hv, hstage⟩ := h.links.followed hch hc
    obtain ⟨ch', hch', -, htask'⟩ := h.links.follows v hv hstage
    obtain rfl : ch' = ch := Option.some.inj (hch'.symm.trans hch)
    refine List.mem_filterMap.2 ⟨v, List.mem_filter.2 ⟨hv, ?_⟩, ?_⟩
    · simp [hstage, ← htask', htask]
    · rw [Watcher.stream?, hstage]
  rw [List.countP_eq_length_filter]
  exact Nat.le_trans (hnodup.subperm hsub).length_le (List.length_filterMap_le _ _)

end Tracker

/-! ## Every run -/

/-- What holds of watchers after a run. -/
structure WatchersExact (t : Tracker Broker) : Prop where
  /-- A cell is watched exactly while one watcher of it is running. -/
  watched : ∀ {i : Nat} {s}, t.cells[i]? = some s →
    unfinished t.watchers i = if s.watching then 1 else 0
  /-- Over all cells that ever were a call's, one watcher at most is running. -/
  single : ∀ callId, t.running callId ≤ 1
  /-- A watched cell is the current one of its call. -/
  current : ∀ {i : Nat} {s}, t.cells[i]? = some s → s.watching = true →
    t.cellOf? s.callId = some i
  /-- A task has no more subscribers than current cells bound to it. -/
  subscribed : ∀ taskId, t.source.subscriberCount taskId ≤ t.bound taskId

/-- No call ever has more than one watcher. -/
theorem LocalTracker.watchers_exact (config : TrackerConfig) (catalog : Catalog) (runtime : Bool)
    (capacity : Nat) (rs : List Turn) :
    WatchersExact ((LocalTracker.new config catalog runtime capacity).turns rs).tracker := by
  have sound := ((Sound.new config catalog runtime capacity).turns rs).tracker
  refine ⟨fun hs => (sound.kept.cell hs).watched, sound.kept.running_le_one, fun hs hw => ?_,
    sound.subscriberCount_le⟩
  exact (Tracker.cellOf?_eq_some sound.kept.keys).2 (sound.kept.current hs hw)

end TaskWatch
