import TaskWatch.Proofs.Broker.Live
import TaskWatch.Proofs.Tracker.Kept

/-!
# Watchers and streams

Over a broker, watchers and streams belong together by their tokens. Every watcher has a token of its
own, and gives it to the stream it opens; a stream that is not cancelled is followed by its watcher.
`Linked` says so, and every change of a tracker keeps it.

* `Linked.grows`: a change of the broker that opens no stream;
* `Linked.setCell`, `Linked.start`, `Linked.openStream`, `Linked.finish`: what happens to cells and
  watchers;
* `Change.source`: what a change of a tracker does to its broker.
-/

namespace TaskWatch

/-- How cells, watchers and streams hang together. -/
structure Linked (watchers : List Watcher) (cells : List CallState) (b : Broker) : Prop where
  issued : ∀ v ∈ watchers, v.token < b.tokens.issued
  tokens : (watchers.map (·.token)).Nodup
  /-- The token of a cell is that of its running watcher. -/
  cell : ∀ {i : Nat} {s token}, cells[i]? = some s → s.token = some token →
    ∃ v ∈ watchers, v.cell = i ∧ v.stage ≠ .finished ∧ v.token = token
  follows : ∀ v ∈ watchers, ∀ {j : Nat}, v.stage = .following j →
    ∃ ch, b.streams[j]? = some ch ∧ ch.token = v.token ∧ ch.taskId = v.taskId
  followed : ∀ {j : Nat} {ch}, b.streams[j]? = some ch → b.tokens.isCancelled ch.token = false →
    ch.Open ∧ ∃ v ∈ watchers, v.stage = .following j

variable {watchers : List Watcher} {cells : List CallState} {b b' : Broker}

/-- Watchers with the same token are the same. -/
theorem Linked.unique (h : Linked watchers cells b) {v v' : Watcher} (hv : v ∈ watchers)
    (hv' : v' ∈ watchers) (e : v.token = v'.token) : v = v' :=
  List.inj_on_of_nodup_map h.tokens hv hv' e

namespace Linked

theorem empty (b : Broker) (h : b.streams = []) : Linked [] [] b where
  issued v hv := absurd hv List.not_mem_nil
  tokens := List.nodup_nil
  cell hs := by simp at hs
  follows v hv := absurd hv List.not_mem_nil
  followed hj := by simp [h] at hj

theorem grows (h : Linked watchers cells b) (hg : b.Grows b') : Linked watchers cells b' where
  issued v hv := Nat.lt_of_lt_of_le (h.issued v hv) hg.issued
  tokens := h.tokens
  cell := h.cell
  follows v hv j hstage := by
    obtain ⟨ch, hj, htoken, htask⟩ := h.follows v hv hstage
    obtain ⟨ch', hj', same, -⟩ := hg.stream hj
    exact ⟨ch', hj', same.token.trans htoken, same.taskId.trans htask⟩
  followed hj' hc := by
    obtain ⟨ch, hj, same, hopen⟩ := hg.stream_before hj'
    rw [same.token] at hc
    obtain ⟨ho, hv⟩ := h.followed hj (hg.uncancelled hc)
    exact ⟨hopen hc ho, hv⟩

/-- A cell keeps its token or loses it. -/
theorem setCell (h : Linked watchers cells b) {i : Nat} {s s' : CallState}
    (hs : cells[i]? = some s) (htoken : s'.token = s.token ∨ s'.token = none) :
    Linked watchers (cells.set i s') b where
  issued := h.issued
  tokens := h.tokens
  cell {j s₁ token} hj hs₁ := by
    by_cases hij : i = j
    · subst hij
      have hlt := (List.getElem?_eq_some_iff.1 hs).1
      obtain rfl : s' = s₁ := by simpa [hlt] using hj
      rcases htoken with e | e
      · exact h.cell hs (e ▸ hs₁)
      · rw [e] at hs₁
        cases hs₁
    · rw [List.getElem?_set_ne hij] at hj
      exact h.cell hj hs₁
  follows := h.follows
  followed := h.followed

/-- A new cell has no token. -/
theorem addCell (h : Linked watchers cells b) {s : CallState} (htoken : s.token = none) :
    Linked watchers (cells ++ [s]) b where
  issued := h.issued
  tokens := h.tokens
  cell {j s₁ token} hj hs₁ := by
    rw [List.getElem?_append] at hj
    split at hj
    · exact h.cell hj hs₁
    · obtain rfl := List.mem_singleton.1 (List.mem_of_getElem? hj)
      rw [htoken] at hs₁
      cases hs₁
  follows := h.follows
  followed := h.followed

/-- A watcher starts, with a new token, which is also the token of its cell. -/
theorem start (h : Linked watchers cells b) {i : Nat} {s s' : CallState}
    (hs : cells[i]? = some s) (taskId : String) (htoken : s'.token = some b.tokens.next) :
    Linked (watchers ++ [⟨i, taskId, b.tokens.next, .starting⟩]) (cells.set i s')
      { b with tokens := b.tokens.issue } where
  issued v hv := by
    rcases List.mem_append.1 hv with hv | hv
    · exact Nat.lt_succ_of_lt (h.issued v hv)
    · rw [List.mem_singleton.1 hv]
      exact Nat.lt_succ_self _
  tokens := by
    rw [List.map_append, List.nodup_append]
    refine ⟨h.tokens, List.nodup_singleton _, fun token hm token' hm' e => ?_⟩
    obtain ⟨v, hv, rfl⟩ := List.mem_map.1 hm
    have hlt := h.issued v hv
    rw [e, List.mem_singleton.1 hm'] at hlt
    exact Nat.lt_irrefl _ hlt
  cell {j s₁ token} hj hs₁ := by
    by_cases hij : i = j
    · subst hij
      have hlt := (List.getElem?_eq_some_iff.1 hs).1
      obtain rfl : s' = s₁ := by simpa [hlt] using hj
      refine ⟨_, List.mem_append_right _ (List.mem_singleton_self _), rfl, nofun, ?_⟩
      exact Option.some.inj (htoken.symm.trans hs₁)
    · rw [List.getElem?_set_ne hij] at hj
      obtain ⟨v, hv, hrest⟩ := h.cell hj hs₁
      exact ⟨v, List.mem_append_left _ hv, hrest⟩
  follows v hv j hstage := by
    rcases List.mem_append.1 hv with hv | hv
    · exact h.follows v hv hstage
    · rw [List.mem_singleton.1 hv] at hstage
      cases hstage
  followed hj hc := by
    obtain ⟨ho, v, hv, hstage⟩ := h.followed hj hc
    exact ⟨ho, v, List.mem_append_left _ hv, hstage⟩

theorem tokens_set (h : Linked watchers cells b) {w : Nat} {v v' : Watcher}
    (hw : watchers[w]? = some v) (he : v'.token = v.token) :
    ((watchers.set w v').map (·.token)).Nodup := by
  have same : (watchers.set w v').map (·.token) = watchers.map (·.token) := map_set_of_eq hw he
  rw [same]
  exact h.tokens

/-- A watcher opens its stream. -/
theorem openStream (h : Linked watchers cells b) {w : Nat} {v : Watcher}
    (hw : watchers[w]? = some v) (hstage : v.stage = .starting) (capacity : Nat) :
    Linked (watchers.set w { v with stage := .following b.streams.length }) cells
      { b with streams := b.streams ++ [Channel.new v.taskId capacity v.token] } where
  issued u hu := by
    rcases List.mem_or_eq_of_mem_set hu with hu | rfl
    · exact h.issued u hu
    · exact h.issued v (List.mem_of_getElem? hw)
  tokens := h.tokens_set hw rfl
  cell hs htoken := by
    obtain ⟨u, hu, hcell, hfinished, rfl⟩ := h.cell hs htoken
    by_cases e : u = v
    · subst e
      exact ⟨_, mem_set_self hw, hcell, nofun, rfl⟩
    · exact ⟨u, mem_set_of_ne hw hu e, hcell, hfinished, rfl⟩
  follows u hu j hj := by
    rcases List.mem_or_eq_of_mem_set hu with hu | rfl
    · obtain ⟨ch, hch, hrest⟩ := h.follows u hu hj
      exact ⟨ch, by rw [List.getElem?_append_left (List.getElem?_eq_some_iff.1 hch).1, hch], hrest⟩
    · obtain rfl := WatcherStage.following.inj hj
      exact ⟨_, List.getElem?_concat_length, rfl, rfl⟩
  followed {j ch} hj hc := by
    rw [List.getElem?_append] at hj
    split at hj
    · obtain ⟨ho, u, hu, hfollowing⟩ := h.followed hj hc
      refine ⟨ho, u, mem_set_of_ne hw hu fun e => ?_, hfollowing⟩
      rw [e, hstage] at hfollowing
      cases hfollowing
    · next hge =>
      have hlt := (List.getElem?_eq_some_iff.1 hj).1
      obtain rfl : j = b.streams.length := by
        rw [List.length_singleton] at hlt
        omega
      obtain rfl := List.mem_singleton.1 (List.mem_of_getElem? hj)
      exact ⟨⟨rfl, rfl, fun _ hm => absurd hm List.not_mem_nil⟩, _, mem_set_self hw, rfl⟩

/-- A watcher finishes, after its stream was cancelled if it has one. -/
theorem finish (h : Linked watchers cells b) {w : Nat} {v : Watcher} {s s' : CallState}
    (hw : watchers[w]? = some v) (hs : cells[v.cell]? = some s) (htoken : s'.token = none)
    (hc : ∀ j, v.stage = .following j → b.tokens.isCancelled v.token = true) :
    Linked (watchers.set w { v with stage := .finished }) (cells.set v.cell s') b where
  issued u hu := by
    rcases List.mem_or_eq_of_mem_set hu with hu | rfl
    · exact h.issued u hu
    · exact h.issued v (List.mem_of_getElem? hw)
  tokens := h.tokens_set hw rfl
  cell {i s₁ token} hi hs₁ := by
    have hlt := (List.getElem?_eq_some_iff.1 hs).1
    by_cases e : v.cell = i
    · subst e
      obtain rfl : s' = s₁ := by simpa [hlt] using hi
      rw [htoken] at hs₁
      cases hs₁
    · rw [List.getElem?_set_ne e] at hi
      obtain ⟨u, hu, hcell, hrest⟩ := h.cell hi hs₁
      exact ⟨u, mem_set_of_ne hw hu fun e' => e (e' ▸ hcell), hcell, hrest⟩
  follows u hu j hj := by
    rcases List.mem_or_eq_of_mem_set hu with hu | rfl
    · exact h.follows u hu hj
    · cases hj
  followed {j ch} hj huncancelled := by
    obtain ⟨ho, u, hu, hfollowing⟩ := h.followed hj huncancelled
    refine ⟨ho, u, mem_set_of_ne hw hu fun e => ?_, hfollowing⟩
    subst e
    obtain ⟨ch', hch', htoken', -⟩ := h.follows u hu hfollowing
    obtain rfl : ch' = ch := Option.some.inj (hch'.symm.trans hj)
    rw [htoken', hc j hfollowing] at huncancelled
    cases huncancelled

end Linked

namespace Tracker

theorem source_finishWatcher {σ : Type} (t : Tracker σ) (w : Nat) (v : Watcher) :
    (t.finishWatcher w v).source = t.source := by
  rw [finishWatcher_frame]

theorem watchers_finishWatcher {σ : Type} (t : Tracker σ) (w : Nat) (v : Watcher) :
    (t.finishWatcher w v).watchers = t.watchers.set w { v with stage := .finished } := by
  rw [finishWatcher_frame]

theorem source_markDone {t : Tracker Broker} {i : Nat} {s : CallState}
    (hs : t.cells[i]? = some s) : (t.markDone i).source =
      { t.source with tokens := t.source.tokens.cancelAny s.token } := by
  rw [markDone_eq hs]
  rfl

/-- A change of a tracker opens a stream for a watcher that is not cancelled, or leaves the live
streams of its broker as they are. -/
theorem Change.source {actor : Option Nat} {t t' : Tracker Broker} (h : Change actor t t') :
    (t.source.Grows t'.source ∧ t'.source.live = t.source.live) ∨
      ∃ v ∈ t.watchers, v.stage = .starting ∧ t.source.tokens.isCancelled v.token = false ∧
        t'.source = t.source.prune.opened v.taskId v.token := by
  have same : t.source.Grows t.source := (Broker.Passes.refl [] t.source).grows
  have ended : ∀ i, t.source.Grows (t.markDone i).source ∧
      (t.markDone i).source.live = t.source.live := by
    intro i
    cases hs : t.cells[i]? with
    | none =>
      rw [markDone_of_none hs]
      exact ⟨same, rfl⟩
    | some s =>
      rw [source_markDone hs]
      exact ⟨.cancelAny t.source s.token, rfl⟩
  cases h with
  | learn | close | runtime => exact .inl ⟨same, rfl⟩
  | create =>
    rw [ensureCell_frame]
    exact .inl ⟨same, rfl⟩
  | markDone _ i => exact .inl (ended i)
  | endCall => exact .inl (ended _)
  | cancelWatch _ i =>
    cases hs : t.cells[i]? with
    | none =>
      rw [cancelWatch_of_none hs]
      exact .inl ⟨same, rfl⟩
    | some s =>
      rw [cancelWatch_eq hs]
      exact .inl ⟨.cancelAny t.source s.token, rfl⟩
  | startWatcher _ i =>
    rcases t.startWatcher_cases i with e | ⟨s, id, -, -, -, -, -, ⟨-, e⟩ | ⟨-, e⟩⟩
    · rw [e]
      exact .inl ⟨same, rfl⟩
    · rw [e]
      exact .inl ⟨.issue t.source, rfl⟩
    · rw [e]
      exact .inl ⟨.issue t.source, rfl⟩
  | openStream hw hstage h =>
    obtain ⟨htoken, -, e⟩ := Broker.watch_eq_ok h
    exact .inr ⟨_, List.mem_of_getElem? hw, hstage, htoken, e⟩
  | failStream hw hstage h =>
    obtain ⟨rejections, rfl⟩ := Broker.watch_eq_error h
    exact .inl ⟨(Broker.Passes.of_eq (by rfl) (by rfl) (by rfl) []).grows, rfl⟩
  | giveUp =>
    rw [source_finishWatcher]
    exact .inl ⟨same, rfl⟩
  | takeEvents =>
    refine .inl ⟨(Broker.Passes.takeEvents t.source _).grows, ?_⟩
    exact Broker.live_takeEvents t.source _
  | release =>
    rw [source_finishWatcher]
    exact .inl ⟨(Broker.Passes.dropStream t.source _).grows, Broker.live_dropStream t.source _⟩

/-- The watchers, cells and streams of the tracker hang together. -/
abbrev Links (t : Tracker Broker) : Prop := Linked t.watchers t.cells t.source

theorem Links.markDone {t : Tracker Broker} (h : t.Links) (i : Nat) : (t.markDone i).Links := by
  cases hs : t.cells[i]? with
  | none => rwa [markDone_of_none hs]
  | some s =>
    rw [markDone_eq hs]
    exact (h.setCell hs (.inr rfl)).grows (.cancelAny t.source s.token)

theorem Links.finishWatcher {t : Tracker Broker} (h : t.Links) (kept : t.Kept) {w : Nat}
    {v : Watcher} (hw : t.watchers[w]? = some v)
    (hc : ∀ j, v.stage = .following j → t.source.tokens.isCancelled v.token = true) :
    (t.finishWatcher w v).Links := by
  obtain ⟨s, hs, -⟩ := kept.watcher v (List.mem_of_getElem? hw)
  rw [finishWatcher_eq hs]
  exact h.finish hw hs rfl hc

/-- Every change keeps watchers, cells and streams together. -/
theorem Links.change {actor : Option Nat} {t t' : Tracker Broker} (h : t.Links) (kept : t.Kept)
    (hc : Change actor t t') : t'.Links := by
  cases hc with
  | learn hs hl => exact h.setCell hs (.inl hl.token)
  | @create _ callId hid =>
    rw [ensureCell, hid]
    exact h.addCell rfl
  | markDone _ i => exact h.markDone i
  | endCall => exact h.markDone _
  | cancelWatch _ i =>
    cases hs : t.cells[i]? with
    | none => rwa [cancelWatch_of_none hs]
    | some s =>
      rw [cancelWatch_eq hs]
      exact (h.setCell hs (.inr rfl)).grows (.cancelAny t.source s.token)
  | startWatcher _ i =>
    rcases t.startWatcher_cases i with e | ⟨s, id, -, hs, -, -, -, ⟨-, e⟩ | ⟨-, e⟩⟩
    · rwa [e]
    · rw [e]
      exact h.start hs id rfl
    · rw [e]
      exact (h.setCell hs (.inr rfl)).grows (.issue t.source)
  | openStream hw hstage hopen =>
    obtain ⟨-, rfl, rfl⟩ := Broker.watch_eq_ok hopen
    have opened := (h.grows (Broker.Passes.prune t.source).grows).openStream hw hstage
      t.source.prune.capacity
    exact opened.grows (Broker.grows_opened _ _ _)
  | failStream hw hstage hopen =>
    obtain ⟨rejections, rfl⟩ := Broker.watch_eq_error hopen
    exact h.grows (Broker.Passes.of_eq (by rfl) (by rfl) (by rfl) []).grows
  | giveUp hw hstage =>
    refine h.finishWatcher kept hw fun j hj => ?_
    rw [hstage] at hj
    cases hj
  | takeEvents => exact h.grows (Broker.Passes.takeEvents t.source _).grows
  | @release _ w v stream hw hstage =>
    have dropped := h.grows (Broker.Passes.dropStream t.source stream).grows
    refine Links.finishWatcher (t := { t with source := t.source.dropStream stream }) dropped kept hw
      fun j hj => ?_
    obtain ⟨ch, hch, htoken, -⟩ := h.follows v (List.mem_of_getElem? hw) hstage
    exact htoken ▸ Broker.isCancelled_dropStream hch
  | close => exact h
  | runtime => exact h

end Tracker

end TaskWatch
