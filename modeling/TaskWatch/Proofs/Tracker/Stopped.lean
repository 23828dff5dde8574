import TaskWatch.Proofs.Tracker.Linked
import TaskWatch.Proofs.Tracker.Watches

/-!
# Trackers that were shut down

After a shutdown all watchers that are still running are cancelled (`Tracker.Stopped`). No watcher
starts any more, and none of them opens a stream: a watcher that is still running has not moved.

All streams of the broker are cancelled then as well (`Broker.Silent`): publications are refused, and
no task has a subscriber.
-/

namespace TaskWatch

/-! ## Brokers without an open stream -/

namespace Broker

/-- All streams are cancelled. -/
def Silent (b : Broker) : Prop :=
  ∀ (j : Nat) ch, b.streams[j]? = some ch → b.tokens.isCancelled ch.token = true

namespace Silent

variable {b b' : Broker}

theorem grows (h : b.Silent) (hg : b.Grows b') : b'.Silent := fun j ch' hj' => by
  obtain ⟨ch, hj, same, -⟩ := hg.stream_before hj'
  rw [same.token]
  exact hg.cancelled (h j ch hj)

theorem streamCancelled (h : b.Silent) (j : Nat) : b.streamCancelled j = true := by
  cases hj : b.streams[j]? with
  | none => rw [Broker.streamCancelled, stream?, hj]
  | some ch => rw [streamCancelled_eq hj, h j ch hj]

theorem subscriberCount (h : b.Silent) (taskId : String) : b.subscriberCount taskId = 0 := by
  rw [Broker.subscriberCount, List.length_eq_zero_iff, List.filter_eq_nil_iff]
  intro j _
  rw [h.streamCancelled]
  decide

/-- Closing a stream that is cancelled touches nothing. -/
theorem closeStream (h : b.Silent) (i : Nat) : Passes [] b (b.closeStream i) := by
  unfold Broker.closeStream
  split
  · next ch hi =>
    have hc := h i ch hi
    have same : Channel.Same ch ch.close.dropSink := ⟨rfl, rfl, rfl⟩
    refine .of_set hi same rfl (.inl ?_) rfl (fun _ => rfl) fun hc' _ => ?_
    · show b.tokens.cancel ch.token = b.tokens
      rw [Tokens.cancel, if_pos hc]
    · have hc'' := (Tokens.Grows.cancel b.tokens ch.token).cancelled hc
      exact absurd (hc'.symm.trans hc'') (by decide)
  · exact .refl [] b

theorem foldl_closeStream (h : b.Silent) (is : List Nat) :
    Passes [] b (is.foldl Broker.closeStream b) := by
  induction is generalizing b with
  | nil => exact .refl [] b
  | cons i is ih => exact (h.closeStream i).trans (ih (h.grows (h.closeStream i).grows))

/-- A publication is refused by all streams that it has yet to come to. -/
theorem advance (h : b.Silent) (p : Publication) (pending : List Nat) :
    (b.advance p pending).1 = .inr p.delivered ∧ Passes [] b (b.advance p pending).2 := by
  induction pending generalizing b with
  | nil => exact ⟨rfl, .addLive b p.taskId p.kept⟩
  | cons i rest ih =>
    rw [Broker.advance]
    cases hi : b.stream? i with
    | none => exact ih h
    | some ch =>
      have hc := h i ch hi
      have hrefused : ch.deliver b.tokens p.event = (.refused, ch) := by
        rw [Channel.deliver, hc]
        rfl
      obtain ⟨hended, hpass⟩ := ih (h.grows (h.closeStream i).grows)
      dsimp only
      rw [hrefused]
      exact ⟨hended, (h.closeStream i).trans hpass⟩

theorem publication (h : b.Silent) (taskId : String) (event : Event) :
    (b.publication taskId event).1 = .inr 0 ∧ Passes [] b (b.publication taskId event).2 := by
  have hwithout := Passes.withoutTask b taskId
  obtain ⟨hended, hpass⟩ := (h.grows hwithout.grows).advance (b.publish taskId event).1
    (b.publish taskId event).1.pending
  exact ⟨hended, hwithout.trans hpass⟩

end Silent

end Broker

/-! ## Trackers whose watchers are cancelled -/

namespace Tracker

/-- A tracker was shut down, and its running watchers are cancelled. -/
structure Stopped {σ : Type} [WatchSource σ] (t : Tracker σ) : Prop where
  closed : t.closed = true
  cancelled : ∀ v ∈ t.watchers, v.stage ≠ .finished → t.tokens.isCancelled v.token = true

namespace Stopped

section

variable {σ : Type} [WatchSource σ] {t t' : Tracker σ}

theorem length (h : t.Stopped) (hw : Watches t t') : t'.watchers.length = t.watchers.length := by
  refine Nat.le_antisymm (Nat.not_lt.1 fun hlt => ?_) (Nat.not_lt.1 fun hlt => ?_)
  · have hnew := List.getElem?_eq_getElem hlt
    have hstarted := hw.started (List.getElem?_eq_none_iff.2 (Nat.le_refl _)) hnew
    exact absurd (hstarted.1.symm.trans h.closed) (by decide)
  · obtain ⟨v', hv', -⟩ := hw.watcher (List.getElem?_eq_getElem hlt)
    exact Nat.lt_irrefl _ (List.getElem?_eq_some_iff.1 hv').1

/-- No watcher starts any more, so all that are running were running before. -/
theorem watches (h : t.Stopped) (hw : Watches t t') : t'.Stopped := by
  refine ⟨hw.closed h.closed, fun v' hv' hstage' => ?_⟩
  obtain ⟨w, hw'⟩ := List.mem_iff_getElem?.1 hv'
  have hlt : w < t.watchers.length := h.length hw ▸ (List.getElem?_eq_some_iff.1 hw').1
  obtain ⟨v, hv, hc⟩ := hw.before hw' hlt
  rw [hc.token]
  exact hw.tokens.cancelled
    (h.cancelled v (List.mem_of_getElem? hv) fun e => hstage' (hc.finished e))

/-- A watcher that is still running has not moved. -/
theorem running_change [HeedfulSource σ] (h : t.Stopped) {actor : Option Nat}
    (hc : Change actor t t') {w : Nat} {v : Watcher} (hw : t'.watchers[w]? = some v)
    (hstage : v.stage ≠ .finished) : t.watchers[w]? = some v := by
  obtain e | ⟨w', v', stage, hw', hstage', hopened, e⟩ | ⟨i, s, id, hclosed, -, -, -, -⟩ := hc.watchers
  · rwa [← e]
  · have hmem := List.mem_of_getElem? hw'
    obtain rfl | ⟨j, hj⟩ := hopened
    · rw [e] at hw
      by_cases hww : w' = w
      · subst hww
        rw [List.getElem?_set_self (List.getElem?_eq_some_iff.1 hw').1] at hw
        obtain rfl := Option.some.inj hw
        exact absurd rfl hstage
      · rwa [List.getElem?_set_ne hww] at hw
    · -- A watcher that is cancelled opens no stream.
      obtain ⟨e', he'⟩ := HeedfulSource.refuses t.source v'.taskId v'.token
        (h.cancelled v' hmem hstage')
      rw [he'] at hj
      cases hj
  · exact absurd (hclosed.symm.trans h.closed) (by decide)

end

variable {t t' : Tracker Broker} {pending : List Nat}

theorem silent (h : t.Stopped) (links : t.Links) : t.source.Silent := fun j ch hj => by
  by_contra hc
  have hc := Bool.eq_false_iff.2 hc
  obtain ⟨-, v, hv, hstage⟩ := links.followed hj hc
  obtain ⟨ch', hch', htoken, -⟩ := links.follows v hv hstage
  obtain rfl : ch' = ch := Option.some.inj (hch'.symm.trans hj)
  have hcancelled := h.cancelled v hv (by rw [hstage]; nofun)
  rw [← htoken] at hcancelled
  exact absurd (hc.symm.trans hcancelled) (by decide)

/-- No stream is opened any more. -/
theorem grows_change (h : t.Stopped) {actor : Option Nat} (hc : Change actor t t') :
    t.source.Grows t'.source := by
  obtain ⟨hg, -⟩ | ⟨v, hv, hstage, htoken, -⟩ := hc.source
  · exact hg
  · have hcancelled := h.cancelled v hv (by rw [hstage]; nofun)
    exact absurd (htoken.symm.trans hcancelled) (by decide)

/-- A step opens no stream, and watchers that are still running have not moved. -/
theorem step (h : t.Stopped) (s : TrackerStep) : t.source.Grows (t.step s).source ∧
    ∀ {w : Nat} {v}, (t.step s).watchers[w]? = some v → v.stage ≠ .finished →
      t.watchers[w]? = some v := by
  obtain ⟨u, hf, hc⟩ | ⟨millis, rfl⟩ := t.step_cases s
  · obtain ⟨hsource, hwatchers, -⟩ := hf.same
    rw [← hsource, ← hwatchers]
    have hu : u.Stopped := h.watches (.of_forgets hf)
    generalize t.step s = t' at hc
    induction hc with
    | refl => exact ⟨(Broker.Passes.refl [] _).grows, fun hw _ => hw⟩
    | tail hcs hc ih =>
      have hmiddle := hu.watches (.of_changes hcs)
      obtain ⟨hg, hrunning⟩ := ih
      exact ⟨hg.trans (hmiddle.grows_change hc), fun hw hstage =>
        hrunning (hmiddle.running_change hc hw hstage) hstage⟩
  · exact ⟨(Broker.Passes.refl [] _).grows, fun hw _ => hw⟩

end Stopped

end Tracker

end TaskWatch
