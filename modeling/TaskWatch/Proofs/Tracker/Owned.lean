import TaskWatch.Proofs.Tracker.Ownership
import TaskWatch.Proofs.Tracker.Watches

/-!
# Who can cancel a watcher

Every watcher has a token of its own, which it gives to the stream it opens (`Tracker.Owned`). So as
long as its cell holds the token, a watcher is cancelled by nobody but its own stream:

* `Owned.change`, `Owned.step`: every step keeps the tokens apart;
* `Guarded.uncancelled_caller`: the caller cancels no token that a cell goes on to hold;
* `Owned.uncancelled_step`: a watcher that has not opened its stream is left alone by all others.
-/

namespace TaskWatch

namespace Tracker

variable {σ : Type} [WatchSource σ] [OwningSource σ]

/-- Every watcher has a token of its own, which it gives to its stream. -/
structure Owned (t : Tracker σ) : Prop where
  tokens : (t.watchers.map (·.token)).Nodup
  /-- The token of a stream is that of a watcher which has opened it. -/
  opened : ∀ {token}, token ∈ OwningSource.owned t.source →
    ∃ v ∈ t.watchers, v.token = token ∧ v.stage ≠ .starting
  cancelled : ∀ {token}, t.tokens.isCancelled token = true → token < t.tokens.issued

namespace Owned

variable {t t' : Tracker σ} {w : Nat} {v : Watcher}

theorem new (config : TrackerConfig) (catalog : Catalog) (runtime : Bool) {source : σ}
    (howned : OwningSource.owned source = [])
    (hcancelled : ∀ token, (WatchSource.tokens source).isCancelled token = false) :
    (Tracker.new config catalog runtime source).Owned where
  tokens := List.nodup_nil
  opened hm := by
    have hm : _ ∈ OwningSource.owned source := hm
    rw [howned] at hm
    exact absurd hm List.not_mem_nil
  cancelled {token} hc := absurd ((hcancelled token).symm.trans hc) (by decide)

/-- The watchers stay, and only tokens that were handed out are cancelled. -/
theorem of_eq (h : t.Owned) (hwatchers : t'.watchers = t.watchers)
    (howned : OwningSource.owned t'.source ⊆ OwningSource.owned t.source)
    (hissued : t.tokens.issued ≤ t'.tokens.issued)
    (hcancels : ∀ {token}, t'.tokens.isCancelled token = true →
      t.tokens.isCancelled token = true ∨ token < t.tokens.issued) : t'.Owned where
  tokens := hwatchers ▸ h.tokens
  opened hm := hwatchers ▸ h.opened (howned hm)
  cancelled hc := by
    obtain hc | hlt := hcancels hc
    · exact Nat.lt_of_lt_of_le (h.cancelled hc) hissued
    · exact Nat.lt_of_lt_of_le hlt hissued

/-- The tokens of all streams were handed out. -/
theorem issued (h : t.Owned) (guarded : t.Guarded) {token : Token}
    (hm : token ∈ OwningSource.owned t.source) : token < t.tokens.issued := by
  obtain ⟨v, hv, rfl, -⟩ := h.opened hm
  exact guarded.armed.issued v hv

/-- The source changes, and cancels only tokens of its streams. -/
theorem source (h : t.Owned) (guarded : t.Guarded) {source : σ}
    (howned : OwningSource.owned source ⊆ OwningSource.owned t.source)
    (hgrows : t.tokens.Grows (WatchSource.tokens source))
    (hcancels : t.tokens.CancelsOnly (OwningSource.owned t.source) (WatchSource.tokens source)) :
    Owned { t with source := source } :=
  h.of_eq rfl howned hgrows.issued fun hc => (hcancels _ hc).imp_right (h.issued guarded)

/-- A watcher goes on. -/
theorem restage (h : t.Owned) (hw : t.watchers[w]? = some v) (stage : WatcherStage)
    (hstage : stage ≠ .starting) (hwatchers : t'.watchers = t.watchers.set w { v with stage := stage })
    (howned : OwningSource.owned t'.source ⊆ v.token :: OwningSource.owned t.source)
    (hissued : t.tokens.issued ≤ t'.tokens.issued)
    (hcancels : ∀ {token}, t'.tokens.isCancelled token = true →
      t.tokens.isCancelled token = true ∨ token < t.tokens.issued) : t'.Owned where
  tokens := by
    have same : (t'.watchers.map (·.token)) = t.watchers.map (·.token) := by
      rw [hwatchers]
      exact map_set_of_eq hw rfl
    rw [same]
    exact h.tokens
  opened {token} hm := by
    rw [hwatchers]
    obtain rfl | hm := List.mem_cons.1 (howned hm)
    · exact ⟨_, mem_set_self hw, rfl, hstage⟩
    · obtain ⟨u, hu, htoken, hrunning⟩ := h.opened hm
      by_cases e : u = v
      · exact ⟨_, mem_set_self hw, e ▸ htoken, hstage⟩
      · exact ⟨u, mem_set_of_ne hw hu e, htoken, hrunning⟩
  cancelled hc := by
    obtain hc | hlt := hcancels hc
    · exact Nat.lt_of_lt_of_le (h.cancelled hc) hissued
    · exact Nat.lt_of_lt_of_le hlt hissued

/-- The call of a cell ends. -/
theorem markDone (h : t.Owned) (guarded : t.Guarded) (i : Nat) : (t.markDone i).Owned := by
  cases hs : t.cells[i]? with
  | none => rwa [markDone_of_none hs]
  | some s =>
    have htokens := tokens_markDone hs
    refine h.of_eq (watchers_markDone t i) ?_ ?_ fun hc => ?_
    · rw [markDone_eq hs]
      exact OwningSource.owned_withTokens t.source _
    · exact Nat.le_of_eq (by rw [htokens, Tokens.issued_cancelAny])
    · rw [htokens, Tokens.isCancelled_cancelAny, Bool.or_eq_true, beq_iff_eq] at hc
      exact hc.symm.imp_right (guarded.armed.held hs)

/-- The watch of a cell is cancelled. -/
theorem cancelWatch (h : t.Owned) (guarded : t.Guarded) (i : Nat) : (t.cancelWatch i).Owned := by
  cases hs : t.cells[i]? with
  | none => rwa [cancelWatch_of_none hs]
  | some s =>
    have htokens := tokens_cancelWatch hs
    refine h.of_eq ?_ ?_ ?_ fun hc => ?_
    · rw [cancelWatch_eq hs]
      rfl
    · rw [cancelWatch_eq hs]
      exact OwningSource.owned_withTokens t.source _
    · exact Nat.le_of_eq (by rw [htokens, Tokens.issued_cancelAny])
    · rw [htokens, Tokens.isCancelled_cancelAny, Bool.or_eq_true, beq_iff_eq] at hc
      exact hc.symm.imp_right (guarded.armed.held hs)

/-- A watcher that starts gets a new token. -/
theorem startWatcher (h : t.Owned) (guarded : t.Guarded) (i : Nat) : (t.startWatcher i).Owned := by
  have htokens : (t.withTokens t.tokens.issue).tokens = t.tokens.issue := tokens_withTokens t _
  have issued : (t.withTokens t.tokens.issue).Owned := by
    refine h.of_eq rfl (OwningSource.owned_withTokens t.source t.tokens.issue) ?_ fun hc => ?_
    · rw [htokens]
      exact Nat.le_succ _
    · rw [htokens] at hc
      exact .inl hc
  obtain e | ⟨s, id, -, -, -, -, -, ⟨-, e⟩ | ⟨-, e⟩⟩ := t.startWatcher_cases i
  · rwa [e]
  · rw [e]
    refine ⟨?_, fun {token} hm => ?_, issued.cancelled⟩
    · dsimp only
      rw [List.map_append, List.nodup_append]
      refine ⟨h.tokens, List.nodup_singleton _, fun token hm token' hm' e => ?_⟩
      obtain ⟨v, hv, rfl⟩ := List.mem_map.1 hm
      have hlt := guarded.armed.issued v hv
      rw [e, List.mem_singleton.1 hm'] at hlt
      exact Nat.lt_irrefl _ hlt
    · obtain ⟨v, hv, hrest⟩ := issued.opened hm
      exact ⟨v, List.mem_append_left _ hv, hrest⟩
  · rw [e]
    exact ⟨issued.tokens, issued.opened, issued.cancelled⟩

/-- Every change keeps the tokens apart. -/
theorem change {actor : Option Nat} (h : t.Owned) (guarded : t.Guarded) (hc : Change actor t t') :
    t'.Owned := by
  have grows := hc.tokens
  cases hc with
  | learn | close | runtime => exact ⟨h.tokens, h.opened, h.cancelled⟩
  | create =>
    rw [ensureCell_frame]
    exact ⟨h.tokens, h.opened, h.cancelled⟩
  | markDone _ i => exact h.markDone guarded i
  | endCall => exact h.markDone guarded _
  | cancelWatch _ i => exact h.cancelWatch guarded i
  | startWatcher _ i => exact h.startWatcher guarded i
  | @openStream _ w v stream source hw hstage hopen =>
    refine h.restage hw (.following stream) nofun rfl (OwningSource.owned_opened hopen) grows.issued
      fun hc => ?_
    have hcancels := OwningSource.cancels_openWatch t.source v.taskId v.token
    rw [hopen] at hcancels
    exact (hcancels _ hc).imp_right (h.issued guarded)
  | @failStream _ w v e source hw hstage hopen =>
    have hcancels := OwningSource.cancels_openWatch t.source v.taskId v.token
    rw [hopen] at hcancels
    exact h.source guarded (OwningSource.owned_refused hopen) grows hcancels
  | @giveUp _ w v hw hstage =>
    rw [finishWatcher_frame]
    exact h.restage hw .finished nofun rfl (List.subset_cons_self _ _) (Nat.le_refl _) .inl
  | takeEvents =>
    exact h.source guarded (OwningSource.owned_takeEvents _ _) grows
      (OwningSource.cancels_takeEvents _ _)
  | @release _ w v stream hw hstage =>
    have hcancels := OwningSource.cancels_release t.source stream
    have howned := OwningSource.owned_release t.source stream
    rw [finishWatcher_frame] at grows ⊢
    exact h.restage hw .finished nofun rfl
      (List.Subset.trans howned (List.subset_cons_self _ _)) grows.issued
      fun hc => (hcancels _ hc).imp_right (h.issued guarded)

theorem changes {actor : Option Nat} (h : t.Owned) (guarded : t.Guarded)
    (hc : Changes actor t t') : t'.Owned := by
  induction hc with
  | refl => exact h
  | tail hcs hc ih => exact ih.change (guarded.changes hcs) hc

theorem forgets (h : t.Owned) (hf : Forgets t t') : t'.Owned := by
  obtain ⟨hsource, hwatchers, -⟩ := hf.same
  refine h.of_eq hwatchers (hsource ▸ List.Subset.refl _) ?_ fun hc => .inl ?_
  · exact Nat.le_of_eq (by rw [Tracker.tokens, Tracker.tokens, hsource])
  · rwa [Tracker.tokens, hsource] at hc

theorem step (h : t.Owned) (guarded : t.Guarded) (s : TrackerStep) : (t.step s).Owned := by
  obtain ⟨u, hf, hc⟩ | ⟨millis, rfl⟩ := t.step_cases s
  · exact (h.forgets hf).changes (guarded.forgets hf) hc
  · exact ⟨h.tokens, h.opened, h.cancelled⟩

end Owned

/-! ## Who can cancel a watcher -/

/-- A cell holds a token. -/
def HoldsToken (t : Tracker σ) (i : Nat) (token : Token) : Prop :=
  ∃ s, t.cells[i]? = some s ∧ s.token = some token

variable {t t' : Tracker σ} {w i : Nat} {v : Watcher} {token : Token}

section

omit [OwningSource σ]

/-- A cell takes on new tokens only. -/
theorem Change.holdsToken {actor : Option Nat} (hc : Change actor t t')
    (h : t'.HoldsToken i token) (hissued : token < t.tokens.issued) : t.HoldsToken i token := by
  obtain ⟨s', hs', htoken⟩ := h
  obtain ⟨s, hs, hbecomes⟩ | ⟨callId, capacity, rfl⟩ := hc.cell hs'
  · cases hbecomes with
    | learns hl => exact ⟨s, hs, hl.token ▸ htoken⟩
    | watched => exact absurd (Option.some.inj htoken ▸ hissued) (Nat.lt_irrefl _)
    | ended | unwatched | tokenless => cases htoken
  · cases htoken

/-- When a cell gives up its token, which is cancelled, no token is cancelled that another holds. -/
theorem Guarded.uncancelled_set (guarded : t.Guarded) {j : Nat} {s s' : CallState}
    (hj : t.cells[j]? = some s) (hs' : s'.token = none) (hbefore : t.HoldsToken i token)
    (hafter : ∃ s₁, (t.cells.set j s')[i]? = some s₁ ∧ s₁.token = some token)
    (hu : t.tokens.isCancelled token = false) :
    (t.tokens.cancelAny s.token).isCancelled token = false := by
  rw [Tokens.isCancelled_cancelAny, hu, Bool.or_false]
  refine beq_eq_false_iff_ne.2 fun htoken => ?_
  obtain ⟨s₂, hi, htoken₂⟩ := hbefore
  obtain rfl := guarded.armed.distinct hi hj htoken₂ htoken
  obtain ⟨s₁, hi₁, htoken₁⟩ := hafter
  rw [List.getElem?_set_self (List.getElem?_eq_some_iff.1 hj).1] at hi₁
  obtain rfl := Option.some.inj hi₁
  rw [hs'] at htoken₁
  cases htoken₁

end

/-- The end of a call does not cancel the watch of another. -/
theorem Guarded.uncancelled_markDone (guarded : t.Guarded) (j : Nat)
    (h : (t.markDone j).HoldsToken i token) (hbefore : t.HoldsToken i token)
    (hu : t.tokens.isCancelled token = false) :
    (t.markDone j).tokens.isCancelled token = false := by
  cases hj : t.cells[j]? with
  | none => rwa [markDone_of_none hj]
  | some s =>
    rw [tokens_markDone hj]
    rw [markDone_eq hj] at h
    exact guarded.uncancelled_set hj rfl hbefore h hu

/-- The caller cancels no token that a cell goes on to hold. -/
theorem Change.uncancelled_caller (guarded : t.Guarded) (hc : Change none t t')
    (h : t'.HoldsToken i token) (hissued : token < t.tokens.issued)
    (hu : t.tokens.isCancelled token = false) : t'.tokens.isCancelled token = false := by
  have hbefore := hc.holdsToken h hissued
  cases hc with
  | learn | close | runtime => exact hu
  | create =>
    rw [ensureCell_frame]
    exact hu
  | markDone _ j => exact guarded.uncancelled_markDone j h hbefore hu
  | cancelWatch _ j =>
    cases hj : t.cells[j]? with
    | none => rwa [cancelWatch_of_none hj]
    | some s =>
      rw [tokens_cancelWatch hj]
      rw [cancelWatch_eq hj] at h
      exact guarded.uncancelled_set hj rfl hbefore h hu
  | startWatcher _ j =>
    have htokens : (t.withTokens t.tokens.issue).tokens.isCancelled token = false := by
      rw [tokens_withTokens]
      exact hu
    obtain e | ⟨s, id, -, -, -, -, -, ⟨-, e⟩ | ⟨-, e⟩⟩ := t.startWatcher_cases j
    · rwa [e]
    · rw [e]
      exact htokens
    · rw [e]
      exact htokens

/-- No stream has the token of a watcher that has not opened its own. -/
theorem Owned.not_owned (h : t.Owned) (hw : t.watchers[w]? = some v) (hstage : v.stage = .starting) :
    v.token ∉ OwningSource.owned t.source := by
  intro hm
  obtain ⟨u, hu, htoken, hrunning⟩ := h.opened hm
  obtain rfl := List.inj_on_of_nodup_map h.tokens hu (List.mem_of_getElem? hw) htoken
  exact hrunning hstage

/-- Nor does another watcher cancel one that has not opened its stream. -/
theorem Change.uncancelled_starting {actor : Option Nat} (owned : t.Owned) (guarded : t.Guarded)
    (hc : Change actor t t') (hw : t.watchers[w]? = some v) (hactor : actor ≠ some w)
    (hstage : v.stage = .starting) (h : t'.HoldsToken v.cell v.token)
    (hu : t.tokens.isCancelled v.token = false) : t'.tokens.isCancelled v.token = false := by
  have hissued := guarded.armed.issued v (List.mem_of_getElem? hw)
  have hbefore := hc.holdsToken h hissued
  have hnot := owned.not_owned hw hstage
  cases hactor' : actor with
  | none => exact (hactor' ▸ hc).uncancelled_caller guarded h hissued hu
  | some u =>
    subst hactor'
    cases hc with
    | learn | runtime => exact hu
    | @openStream _ _ a stream source _ _ hopen =>
      have hcancels := OwningSource.cancels_openWatch t.source a.taskId a.token
      rw [hopen] at hcancels
      exact hcancels.uncancelled hnot hu
    | @failStream _ _ a e source _ _ hopen =>
      have hcancels := OwningSource.cancels_openWatch t.source a.taskId a.token
      rw [hopen] at hcancels
      exact hcancels.uncancelled hnot hu
    | giveUp =>
      rw [tokens_finishWatcher]
      exact hu
    | takeEvents => exact (OwningSource.cancels_takeEvents t.source _).uncancelled hnot hu
    | endCall => exact guarded.uncancelled_markDone _ h hbefore hu
    | release =>
      rw [tokens_finishWatcher]
      exact (OwningSource.cancels_release t.source _).uncancelled hnot hu

theorem Changes.uncancelled_caller (guarded : t.Guarded) (hc : Changes none t t')
    (h : t'.HoldsToken i token) (hissued : token < t.tokens.issued)
    (hu : t.tokens.isCancelled token = false) : t'.tokens.isCancelled token = false := by
  induction hc with
  | refl => exact hu
  | tail hcs hc ih =>
    have hissued' := Nat.lt_of_lt_of_le hissued (Watches.of_changes hcs).tokens.issued
    exact hc.uncancelled_caller (guarded.changes hcs) h hissued' (ih (hc.holdsToken h hissued'))

theorem Changes.uncancelled_starting {actor : Option Nat} (owned : t.Owned) (guarded : t.Guarded)
    (hc : Changes actor t t') (hw : t.watchers[w]? = some v) (hactor : actor ≠ some w)
    (hstage : v.stage = .starting) (h : t'.HoldsToken v.cell v.token)
    (hu : t.tokens.isCancelled v.token = false) :
    t'.watchers[w]? = some v ∧ t'.tokens.isCancelled v.token = false := by
  induction hc with
  | refl => exact ⟨hw, hu⟩
  | tail hcs hc ih =>
    have guarded' := guarded.changes hcs
    have owned' := owned.changes guarded hcs
    have hissued := Nat.lt_of_lt_of_le (guarded.armed.issued v (List.mem_of_getElem? hw))
      (Watches.of_changes hcs).tokens.issued
    obtain ⟨hw', hu'⟩ := ih (hc.holdsToken h hissued)
    exact ⟨hc.watcher_of_ne hw' hactor,
      hc.uncancelled_starting owned' guarded' hw' hactor hstage h hu'⟩

/-- The caller cancels no token that a cell goes on to hold. -/
theorem Guarded.uncancelled_caller (guarded : t.Guarded) {s : TrackerStep} (hs : s.actor = none)
    (h : (t.step s).HoldsToken i token) (hissued : token < t.tokens.issued)
    (hu : t.tokens.isCancelled token = false) : (t.step s).tokens.isCancelled token = false := by
  obtain ⟨u, hf, hc⟩ | ⟨millis, rfl⟩ := t.step_cases s
  · obtain ⟨hsource, -, -⟩ := hf.same
    have htokens : u.tokens = t.tokens := congrArg WatchSource.tokens hsource
    rw [hs] at hc
    exact Changes.uncancelled_caller (guarded.forgets hf) hc h (htokens ▸ hissued) (htokens ▸ hu)
  · exact hu

/-- A watcher that has not opened its stream stays as it is until it is polled, and is not cancelled
while its cell holds its token. -/
theorem Owned.uncancelled_step (owned : t.Owned) (guarded : t.Guarded) {s : TrackerStep}
    (hs : s.actor ≠ some w) (hw : t.watchers[w]? = some v) (hstage : v.stage = .starting)
    (h : (t.step s).HoldsToken v.cell v.token) (hu : t.tokens.isCancelled v.token = false) :
    (t.step s).watchers[w]? = some v ∧ (t.step s).tokens.isCancelled v.token = false := by
  obtain ⟨u, hf, hc⟩ | ⟨millis, rfl⟩ := t.step_cases s
  · obtain ⟨hsource, hwatchers, -⟩ := hf.same
    have htokens : u.tokens = t.tokens := congrArg WatchSource.tokens hsource
    exact Changes.uncancelled_starting (owned.forgets hf) (guarded.forgets hf) hc (hwatchers ▸ hw) hs
      hstage h (htokens ▸ hu)
  · exact ⟨hw, hu⟩

end Tracker

end TaskWatch
