import TaskWatch.Proofs.Broker.Live

/-!
# The subscribers of a task

A stream that is live for a task subscribes to it until the stream is cancelled: whoever cancels it
does not look at the lists of live streams, so cancelled streams stay there until they are pruned or
the task publishes.

* `liveStreams_withoutTask`, `liveStreams_addLive`, `liveStreams_prune`: the lists of live streams
  after what takes from them and adds to them;
* `Spares`: changes that leave all streams exactly as they are, except those they touch;
* `Orderly`: every stream has a token of its own and one place at most. So what touches some streams
  cancels no others (`Orderly.streamCancelled_passes`).
-/

namespace TaskWatch

/-- There is room for one event at least, and no more are queued than there is room for. -/
structure Channel.Bounded (ch : Channel) : Prop where
  room : 0 < ch.capacity
  queue : ch.queue.length ≤ ch.capacity

namespace Broker

variable {b b' b'' : Broker} {taskId task : String} {i j : Nat} {ch ch' : Channel}
  {touched pending pending' : List Nat}

/-- The live streams of a task that are not cancelled, oldest first. -/
def subscribers (b : Broker) (taskId : String) : List Nat :=
  (b.liveStreams taskId).filter (!b.streamCancelled ·)

theorem subscriberCount_eq (b : Broker) (taskId : String) :
    b.subscriberCount taskId = (b.subscribers taskId).length := rfl

theorem mem_subscribers :
    j ∈ b.subscribers taskId ↔ j ∈ b.liveStreams taskId ∧ b.streamCancelled j = false := by
  rw [subscribers, List.mem_filter, Bool.not_eq_true']

theorem subscribers_congr (hlive : b'.liveStreams taskId = b.liveStreams taskId)
    (hcancelled : ∀ j ∈ b.liveStreams taskId, b'.streamCancelled j = b.streamCancelled j) :
    b'.subscribers taskId = b.subscribers taskId := by
  rw [subscribers, subscribers, hlive]
  exact List.filter_congr fun j hj => by rw [hcancelled j hj]

theorem exists_stream (h : b.streamCancelled j = false) :
    ∃ ch, b.streams[j]? = some ch ∧ b.tokens.isCancelled ch.token = false := by
  cases hj : b.streams[j]? with
  | none =>
    rw [streamCancelled, stream?, hj] at h
    cases h
  | some ch => exact ⟨ch, rfl, streamCancelled_eq hj ▸ h⟩

/-! ## The lists of live streams -/

/-- Every task has one list of live streams at most. -/
def Keyed (b : Broker) : Prop := (b.live.map (·.1)).Nodup

theorem liveStreams_of_live (h : b'.live = b.live) (taskId : String) :
    b'.liveStreams taskId = b.liveStreams taskId := by
  rw [liveStreams, liveStreams, h]

theorem held_of_live (h : b'.live = b.live) : b'.held = b.held := by
  rw [held, held, h]

theorem mem_held (hj : j ∈ b.liveStreams taskId) : j ∈ b.held := by
  rcases b.liveStreams_eq taskId with e | he
  · rw [e] at hj
    exact absurd hj List.not_mem_nil
  · exact List.mem_flatMap.2 ⟨_, he, hj⟩

theorem liveStreams_withoutTask (b : Broker) (taskId task : String) :
    (b.withoutTask taskId).liveStreams task = if task = taskId then [] else b.liveStreams task := by
  rw [liveStreams, withoutTask, find?_filter_key]
  split
  · rfl
  · rfl

theorem liveStreams_addLive (b : Broker) (taskId task : String) (streams : List Nat) :
    (b.addLive taskId streams).liveStreams task =
      if task = taskId then b.liveStreams taskId ++ streams else b.liveStreams task := by
  unfold addLive
  split
  · next hempty =>
    rw [List.isEmpty_iff.1 hempty, List.append_nil]
    split
    · next e => rw [e]
    · rfl
  · split
    · next e =>
      rw [liveStreams, List.find?_cons_of_pos (by simpa using e.symm)]
      rfl
    · next hne =>
      rw [liveStreams, List.find?_cons_of_neg (by simpa using Ne.symm hne)]
      exact (b.liveStreams_withoutTask taskId task).trans (if_neg hne)

theorem liveStreams_prune (h : b.Keyed) (taskId : String) :
    b.prune.liveStreams taskId = b.subscribers taskId := by
  rw [subscribers, liveStreams, live_prune, liveStreams]
  rw [Keyed] at h
  generalize b.live = live at h
  induction live with
  | nil => rfl
  | cons entry live ih =>
    rw [List.map_cons] at h
    obtain ⟨hnot, h⟩ := List.nodup_cons.1 h
    rw [List.map_cons]
    by_cases hkey : entry.1 = taskId
    · rw [List.find?_cons_of_pos (by simpa using hkey)]
      by_cases hgone : (entry.2.filter (!b.streamCancelled ·)).isEmpty
      · rw [List.filter_cons_of_neg (by simpa using hgone), Option.map_some, Option.getD_some,
          List.isEmpty_iff.1 hgone, ih h]
        have hnone : live.find? (·.1 == taskId) = none := find?_key_eq_none.2 (hkey ▸ hnot)
        rw [hnone]
        rfl
      · rw [List.filter_cons_of_pos (by simpa using hgone),
          List.find?_cons_of_pos (by simpa using hkey)]
        rfl
    · rw [List.find?_cons_of_neg (by simpa using hkey)]
      by_cases hgone : (entry.2.filter (!b.streamCancelled ·)).isEmpty
      · rw [List.filter_cons_of_neg (by simpa using hgone), ih h]
      · rw [List.filter_cons_of_pos (by simpa using hgone),
          List.find?_cons_of_neg (by simpa using hkey), ih h]

namespace Keyed

theorem of_live (h : b.Keyed) (e : b'.live = b.live) : b'.Keyed := by
  rwa [Keyed, e]

theorem withoutTask (h : b.Keyed) (taskId : String) : (b.withoutTask taskId).Keyed :=
  h.sublist (List.filter_sublist.map _)

theorem addLive (h : b.Keyed) (taskId : String) (streams : List Nat) :
    (b.addLive taskId streams).Keyed := by
  unfold Broker.addLive
  split
  · exact h
  · refine List.nodup_cons.2 ⟨fun hm => ?_, h.withoutTask taskId⟩
    obtain ⟨entry, he, hkey⟩ := List.mem_map.1 hm
    exact absurd hkey (by simpa using (List.mem_filter.1 he).2)

theorem prune (h : b.Keyed) : b.prune.Keyed := by
  rw [Keyed, live_prune]
  refine List.Nodup.sublist (List.filter_sublist.map _) ?_
  rw [List.map_map]
  exact h

end Keyed

/-- No stream subscribes twice. -/
theorem Filed.nodup_subscribers (h : b.Filed pending) (taskId : String) :
    (b.subscribers taskId).Nodup := by
  refine List.Nodup.sublist List.filter_sublist ?_
  rcases b.liveStreams_eq taskId with e | he
  · rw [e]
    exact List.nodup_nil
  · obtain ⟨hheld, -, -⟩ := List.nodup_append.1 h.nodup
    exact (List.nodup_flatMap.1 hheld).1 _ he

/-! ## Streams that are left alone -/

/-- All streams stay exactly as they are, except those that are touched. -/
def Spares (touched : List Nat) (b b' : Broker) : Prop :=
  ∀ j, j ∉ touched → b'.streams[j]? = b.streams[j]?

namespace Spares

theorem trans (h : Spares touched b b') (h' : Spares touched b' b'') : Spares touched b b'' :=
  fun j hj => (h' j hj).trans (h j hj)

theorem mono {touched' : List Nat} (h : Spares touched b b') (hsub : touched ⊆ touched') :
    Spares touched' b b' :=
  fun j hj => h j fun hm => hj (hsub hm)

theorem setStream (b : Broker) (i : Nat) (ch : Channel) : Spares [i] b (b.setStream i ch) :=
  fun _ hj => List.getElem?_set_ne fun e => hj (List.mem_singleton.2 e.symm)

theorem dropSink (b : Broker) (i : Nat) : Spares [i] b (b.dropSink i) := by
  unfold Broker.dropSink
  split
  · exact setStream b i _
  · exact fun _ _ => rfl

theorem closeStream (b : Broker) (i : Nat) : Spares [i] b (b.closeStream i) := by
  unfold Broker.closeStream
  split
  · exact setStream b i _
  · exact fun _ _ => rfl

theorem dropStream (b : Broker) (i : Nat) : Spares [i] b (b.dropStream i) := by
  unfold Broker.dropStream
  split
  · exact setStream b i _
  · exact fun _ _ => rfl

theorem foldl {f : Broker → Nat → Broker} (hf : ∀ b i, Spares [i] b (f b i)) (b : Broker)
    (is : List Nat) : Spares is b (is.foldl f b) := by
  induction is generalizing b with
  | nil => exact fun _ _ => rfl
  | cons i is ih =>
    exact ((hf b i).mono (by simp)).trans ((ih (f b i)).mono (List.subset_cons_self i is))

theorem close (b : Broker) (taskId : String) : Spares (b.liveStreams taskId) b (b.close taskId) :=
  foldl closeStream (b.withoutTask taskId) _

end Spares

/-- Pruning changes nothing but live streams that are cancelled. -/
theorem stream_prune (h : j ∈ b.held → b.streamCancelled j = false) :
    b.prune.streams[j]? = b.streams[j]? := by
  refine Spares.foldl Spares.dropSink { b with live := _ } _ j fun hj => ?_
  obtain ⟨hheld, hcancelled⟩ := List.mem_filter.1 hj
  exact absurd (hcancelled.symm.trans (h hheld)) (by decide)

/-! ## Queues of bounded length -/

/-- No queue is longer than it may be. -/
def Bounded (b : Broker) : Prop := ∀ ch ∈ b.streams, ch.Bounded

namespace Bounded

theorem setStream (h : b.Bounded) (hch : ch.Bounded) (i : Nat) : (b.setStream i ch).Bounded :=
  fun _ hm => (List.mem_or_eq_of_mem_set hm).elim (h _) fun e => e ▸ hch

theorem getElem? (h : b.Bounded) (hi : b.streams[i]? = some ch) : ch.Bounded :=
  h ch (List.mem_of_getElem? hi)

/-- A queue may always become shorter. -/
theorem of_set (h : b.Bounded) (hi : b.streams[i]? = some ch)
    (hstreams : b'.streams = b.streams.set i ch') (hcapacity : ch'.capacity = ch.capacity)
    (hqueue : ch'.queue.length ≤ ch.queue.length) : b'.Bounded := by
  have hch := h.getElem? hi
  have hch' : ch'.Bounded := ⟨hcapacity ▸ hch.room, hcapacity ▸ Nat.le_trans hqueue hch.queue⟩
  intro ch₁ hm
  rw [hstreams] at hm
  exact h.setStream hch' i ch₁ hm

theorem closeStream (h : b.Bounded) (i : Nat) : (b.closeStream i).Bounded := by
  unfold Broker.closeStream
  split
  · next ch hi =>
    have hqueue : (ch.close.dropSink).queue.length ≤ ch.queue.length := Nat.le_refl _
    exact h.of_set hi rfl rfl hqueue
  · exact h

theorem dropSink (h : b.Bounded) (i : Nat) : (b.dropSink i).Bounded := by
  unfold Broker.dropSink
  split
  · next ch hi =>
    have hqueue : (ch.dropSink).queue.length ≤ ch.queue.length := Nat.le_refl _
    exact h.of_set hi rfl rfl hqueue
  · exact h

theorem dropStream (h : b.Bounded) (i : Nat) : (b.dropStream i).Bounded := by
  unfold Broker.dropStream
  split
  · next ch hi =>
    have hqueue : (ch.dropStream).queue.length ≤ ch.queue.length := Nat.le_refl _
    exact h.of_set hi rfl rfl hqueue
  · exact h

theorem foldl {f : Broker → Nat → Broker} (hf : ∀ {b : Broker}, b.Bounded → ∀ i, (f b i).Bounded)
    (h : b.Bounded) (is : List Nat) : (is.foldl f b).Bounded := by
  induction is generalizing b with
  | nil => exact h
  | cons i is ih => exact ih (hf h i)

theorem prune (h : b.Bounded) : b.prune.Bounded := by
  have hb : ∀ live, Bounded { b with live := live } := fun _ => h
  exact foldl (fun h i => h.dropSink i) (hb _) _

theorem close (h : b.Bounded) (taskId : String) : (b.close taskId).Bounded := by
  have hb : (b.withoutTask taskId).Bounded := h
  exact foldl (fun h i => h.closeStream i) hb _

end Bounded

theorem streamCancelled_of_none (hi : b.streams[i]? = none) : b.streamCancelled i = true := by
  rw [streamCancelled, stream?, hi]

/-- A stream that is cancelled stays cancelled. -/
theorem streamCancelled_mono (hp : Passes touched b b') (h : b.streamCancelled j = true) :
    b'.streamCancelled j = true := by
  refine eq_true_of_ne_false fun hc => ?_
  obtain ⟨ch', hch', hc⟩ := exists_stream hc
  obtain ⟨ch, hch, same, -⟩ := hp.grows.stream_before hch'
  rw [streamCancelled_eq hch] at h
  rw [same.token] at hc
  exact absurd ((hp.cancelled h).symm.trans hc) (by decide)

/-! ## Every stream with its own token -/

/-- Every task has one list of live streams, every stream has one place and a token of its own, and
who has not cancelled a stream still holds it. -/
structure Orderly (b : Broker) (pending : List Nat) : Prop where
  keyed : b.Keyed
  filed : b.Filed pending
  bounded : b.Bounded
  opened : ∀ {j : Nat} {ch}, b.streams[j]? = some ch → b.tokens.isCancelled ch.token = false → ch.Open
  apart : ∀ {i j : Nat} {ch ch'}, b.streams[i]? = some ch → b.streams[j]? = some ch' →
    ch.token = ch'.token → i = j
  issued : ∀ {j : Nat} {ch}, b.streams[j]? = some ch → ch.token < b.tokens.issued
  cancelled : ∀ {token}, b.tokens.isCancelled token = true → token < b.tokens.issued

namespace Orderly

theorem new (capacity : Nat) : (Broker.new capacity).Orderly [] where
  keyed := List.nodup_nil
  filed := ⟨List.nodup_nil, fun _ _ hm => absurd hm List.not_mem_nil,
    fun _ hm => absurd hm List.not_mem_nil⟩
  bounded _ hm := absurd hm List.not_mem_nil
  opened hj := absurd hj (by simp [Broker.new])
  apart hj := absurd hj (by simp [Broker.new])
  issued hj := absurd hj (by simp [Broker.new])
  cancelled hc := absurd hc Bool.false_ne_true

/-- Whatever touches some streams leaves a broker in order, if they stay in their places. -/
theorem passes (h : b.Orderly pending) (hp : Passes touched b b') (hkeyed : b'.Keyed)
    (hfiled : b'.Filed pending') (hbounded : b'.Bounded) : b'.Orderly pending' where
  keyed := hkeyed
  filed := hfiled
  bounded := hbounded
  opened hj hc := by
    obtain ⟨ch, hch, same, hopen⟩ := hp.grows.stream_before hj
    rw [same.token] at hc
    exact hopen hc (h.opened hch (hp.grows.uncancelled hc))
  apart hi hj e := by
    obtain ⟨ch, hch, same, -⟩ := hp.grows.stream_before hi
    obtain ⟨ch', hch', same', -⟩ := hp.grows.stream_before hj
    exact h.apart hch hch' (same.token.symm.trans (e.trans same'.token))
  issued hj := by
    obtain ⟨ch, hch, same, -⟩ := hp.grows.stream_before hj
    rw [same.token, hp.issued]
    exact h.issued hch
  cancelled hc := by
    rw [hp.issued]
    rcases hp.cause hc with hc | ⟨j, -, ch, hch, rfl⟩
    · exact h.cancelled hc
    · exact h.issued hch

/-- A stream that is not touched is cancelled if it was. -/
theorem isCancelled_passes (h : b.Orderly pending) (hp : Passes touched b b') (hj : j ∉ touched)
    (hch : b.streams[j]? = some ch) :
    b'.tokens.isCancelled ch.token = b.tokens.isCancelled ch.token := by
  cases hc : b.tokens.isCancelled ch.token with
  | true => exact hp.cancelled hc
  | false =>
    refine eq_false_of_ne_true fun hc' => ?_
    rcases hp.cause hc' with hc' | ⟨i, hi, ch', hch', e⟩
    · exact absurd (hc'.symm.trans hc) (by decide)
    · exact hj (h.apart hch' hch e ▸ hi)

theorem streamCancelled_passes (h : b.Orderly pending) (hp : Passes touched b b')
    (hj : j ∉ touched) : b'.streamCancelled j = b.streamCancelled j := by
  cases hch : b.streams[j]? with
  | none =>
    have hnone := streamCancelled_of_none hch
    rw [hnone, streamCancelled_mono hp hnone]
  | some ch =>
    obtain ⟨ch', hch', same, -⟩ := hp.stream hch
    rw [streamCancelled_eq hch, streamCancelled_eq hch', same.token]
    exact h.isCancelled_passes hp hj hch

end Orderly

end Broker

end TaskWatch
