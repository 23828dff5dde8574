import TaskWatch.Proofs.Tracker.Evictions
import TaskWatch.Proofs.Tracker.Heed
import TaskWatch.Proofs.Tracker.Watchers

/-!
# A watch ends with its call

Whatever the source of the watches is, as long as it heeds cancellations: a cell holds the token of
its running watcher, or that token is cancelled; a cell that is done holds none, and no two cells hold the
same (`Armed`). So the running watcher of a call that has ended is cancelled. Every change keeps this
(`Tracker.Guarded.change`), and all that a change does to the tokens is to hand out and cancel some
(`Tracker.Change.tokens`).
-/

namespace TaskWatch

/-- How cells hold the tokens of their watchers. -/
structure Armed (watchers : List Watcher) (cells : List CallState) (tokens : Tokens) : Prop where
  ended : ∀ {i : Nat} {s}, cells[i]? = some s → s.done = true → s.token = none
  /-- The token of a running watcher is held by its cell, or cancelled. -/
  running : ∀ v ∈ watchers, v.stage ≠ .finished → ∀ {s}, cells[v.cell]? = some s →
    s.token = some v.token ∨ tokens.isCancelled v.token = true
  held : ∀ {i : Nat} {s token}, cells[i]? = some s → s.token = some token → token < tokens.issued
  distinct : ∀ {i j : Nat} {s s' token}, cells[i]? = some s → cells[j]? = some s' →
    s.token = some token → s'.token = some token → i = j
  issued : ∀ v ∈ watchers, v.token < tokens.issued

namespace Armed

variable {watchers : List Watcher} {cells : List CallState} {tokens tokens' : Tokens} {i w : Nat}
  {s s' : CallState} {v : Watcher}

theorem empty (tokens : Tokens) : Armed [] [] tokens where
  ended h := by simp at h
  running v hv := absurd hv List.not_mem_nil
  held h := by simp at h
  distinct h := by simp at h
  issued v hv := absurd hv List.not_mem_nil

theorem grows (h : Armed watchers cells tokens) (hg : tokens.Grows tokens') :
    Armed watchers cells tokens' where
  ended := h.ended
  running v hv hstage _ hs := (h.running v hv hstage hs).imp_right hg.cancelled
  held hs htoken := Nat.lt_of_lt_of_le (h.held hs htoken) hg.issued
  distinct := h.distinct
  issued v hv := Nat.lt_of_lt_of_le (h.issued v hv) hg.issued

/-- What a cell holds after one cell has changed. -/
theorem holds_set (hs : cells[i]? = some s) (htoken : s'.token = s.token ∨ s'.token = none)
    {j : Nat} {s₁ : CallState} {token : Token} (hj : (cells.set i s')[j]? = some s₁)
    (hs₁ : s₁.token = some token) : ∃ s₂, cells[j]? = some s₂ ∧ s₂.token = some token := by
  have hlt := (List.getElem?_eq_some_iff.1 hs).1
  by_cases hij : i = j
  · subst hij
    obtain rfl : s' = s₁ := by simpa [hlt] using hj
    obtain e | e := htoken
    · exact ⟨s, hs, e.symm.trans hs₁⟩
    · rw [e] at hs₁
      cases hs₁
  · rw [List.getElem?_set_ne hij] at hj
    exact ⟨s₁, hj, hs₁⟩

/-- A cell keeps its token, or gives it up after it was cancelled. -/
theorem setCell (h : Armed watchers cells tokens) (hs : cells[i]? = some s)
    (hended : s'.done = true → s'.token = none)
    (htoken : s'.token = s.token ∨ s'.token = none ∧
      ∀ token, s.token = some token → tokens.isCancelled token = true) :
    Armed watchers (cells.set i s') tokens := by
  have hlt := (List.getElem?_eq_some_iff.1 hs).1
  have hkeeps : s'.token = s.token ∨ s'.token = none := htoken.imp_right And.left
  refine ⟨fun {j s₁} hj hdone => ?_, fun v hv hstage s₁ hj => ?_, fun hj hs₁ => ?_,
    fun hj hk hs₁ hs₂ => ?_, h.issued⟩
  · by_cases hij : i = j
    · subst hij
      obtain rfl : s' = s₁ := by simpa [hlt] using hj
      exact hended hdone
    · rw [List.getElem?_set_ne hij] at hj
      exact h.ended hj hdone
  · by_cases hij : i = v.cell
    · subst hij
      obtain rfl : s' = s₁ := by simpa [hlt] using hj
      obtain hheld | hc := h.running v hv hstage hs
      · obtain e | ⟨-, hc⟩ := htoken
        · exact .inl (e.trans hheld)
        · exact .inr (hc v.token hheld)
      · exact .inr hc
    · rw [List.getElem?_set_ne hij] at hj
      exact h.running v hv hstage hj
  · obtain ⟨s₂, hj, hs₂⟩ := holds_set hs hkeeps hj hs₁
    exact h.held hj hs₂
  · obtain ⟨s₃, hj, hs₃⟩ := holds_set hs hkeeps hj hs₁
    obtain ⟨s₄, hk, hs₄⟩ := holds_set hs hkeeps hk hs₂
    exact h.distinct hj hk hs₃ hs₄

/-- The token of a cell is cancelled. -/
theorem cancel (h : Armed watchers cells tokens) (hs : cells[i]? = some s)
    (htoken : s'.token = none) :
    Armed watchers (cells.set i s') (tokens.cancelAny s.token) := by
  refine (h.grows (.cancelAny tokens s.token)).setCell hs (fun _ => htoken)
    (.inr ⟨htoken, fun token e => ?_⟩)
  rw [Tokens.isCancelled_cancelAny, e, beq_self_eq_true, Bool.true_or]

/-- A new cell holds no token, and no watcher is there for it. -/
theorem addCell (h : Armed watchers cells tokens) (htoken : s.token = none)
    (hcells : ∀ v ∈ watchers, v.cell < cells.length) :
    Armed watchers (cells ++ [s]) tokens := by
  have holds : ∀ {j : Nat} {s₁ token}, (cells ++ [s])[j]? = some s₁ → s₁.token = some token →
      cells[j]? = some s₁ := by
    intro j s₁ token hj hs₁
    rw [List.getElem?_append] at hj
    split at hj
    · exact hj
    · obtain rfl := List.mem_singleton.1 (List.mem_of_getElem? hj)
      rw [htoken] at hs₁
      cases hs₁
  refine ⟨fun {j s₁} hj hdone => ?_, fun v hv hstage s₁ hj => ?_, fun hj hs₁ => ?_,
    fun hj hk hs₁ hs₂ => ?_, h.issued⟩
  · cases htoken' : s₁.token with
    | none => rfl
    | some token =>
      rw [h.ended (holds hj htoken') hdone] at htoken'
      cases htoken'
  · rw [List.getElem?_append_left (hcells v hv)] at hj
    exact h.running v hv hstage hj
  · exact h.held (holds hj hs₁) hs₁
  · exact h.distinct (holds hj hs₁) (holds hk hs₂) hs₁ hs₂

/-- A watcher starts under a new token, which its cell holds from then on. -/
theorem start (h : Armed watchers cells tokens) (hs : cells[i]? = some s) (hidle : s.token = none)
    (taskId : String) (hdone : s'.done = false) (htoken : s'.token = some tokens.next) :
    Armed (watchers ++ [⟨i, taskId, tokens.next, .starting⟩]) (cells.set i s') tokens.issue := by
  have hlt := (List.getElem?_eq_some_iff.1 hs).1
  have other : ∀ {j : Nat} {s₁}, i ≠ j → (cells.set i s')[j]? = some s₁ → cells[j]? = some s₁ :=
    fun hij hj => by rwa [List.getElem?_set_ne hij] at hj
  have self : ∀ {s₁}, (cells.set i s')[i]? = some s₁ → s₁ = s' := fun hi => by
    rw [List.getElem?_set_self hlt] at hi
    exact (Option.some.inj hi).symm
  -- No cell has held the new token before.
  have fresh : ∀ {j : Nat} {s₁}, i ≠ j → (cells.set i s')[j]? = some s₁ →
      s₁.token ≠ some tokens.next := fun hij hj e =>
    Nat.lt_irrefl _ (h.held (other hij hj) e)
  refine ⟨fun {j s₁} hj hd => ?_, fun v hv hstage s₁ hj => ?_, fun {j s₁ token} hj hs₁ => ?_,
    fun {j k s₁ s₂ token} hj hk hs₁ hs₂ => ?_, fun v hv => ?_⟩
  · by_cases hij : i = j
    · subst hij
      rw [self hj, hdone] at hd
      cases hd
    · exact h.ended (other hij hj) hd
  · obtain hv | hv := List.mem_append.1 hv
    · by_cases hij : i = v.cell
      · -- The cell held no token, so an earlier watcher of it is cancelled.
        obtain hheld | hc := h.running v hv hstage (hij ▸ hs)
        · rw [hidle] at hheld
          cases hheld
        · exact .inr hc
      · exact h.running v hv hstage (other hij hj)
    · obtain rfl := List.mem_singleton.1 hv
      rw [self hj]
      exact .inl htoken
  · by_cases hij : i = j
    · subst hij
      rw [self hj, htoken] at hs₁
      obtain rfl := Option.some.inj hs₁
      exact Nat.lt_succ_self _
    · exact Nat.lt_succ_of_lt (h.held (other hij hj) hs₁)
  · by_cases hij : i = j
    · subst hij
      by_cases hik : i = k
      · exact hik
      · rw [self hj, htoken] at hs₁
        exact absurd (hs₂.trans hs₁.symm) (fresh hik hk)
    · by_cases hik : i = k
      · subst hik
        rw [self hk, htoken] at hs₂
        exact absurd (hs₁.trans hs₂.symm) (fresh hij hj)
      · exact h.distinct (other hij hj) (other hik hk) hs₁ hs₂
  · obtain hv | hv := List.mem_append.1 hv
    · exact Nat.lt_succ_of_lt (h.issued v hv)
    · obtain rfl := List.mem_singleton.1 hv
      exact Nat.lt_succ_self _

/-- A watcher goes on. -/
theorem restage (h : Armed watchers cells tokens) (hw : watchers[w]? = some v)
    (hstage : v.stage ≠ .finished) (stage : WatcherStage) :
    Armed (watchers.set w { v with stage := stage }) cells tokens where
  ended := h.ended
  running u hu hu' _ hs := by
    obtain hu | rfl := List.mem_or_eq_of_mem_set hu
    · exact h.running u hu hu' hs
    · exact h.running v (List.mem_of_getElem? hw) hstage hs
  held := h.held
  distinct := h.distinct
  issued u hu := by
    obtain hu | rfl := List.mem_or_eq_of_mem_set hu
    · exact h.issued u hu
    · exact h.issued v (List.mem_of_getElem? hw)

/-- The only running watcher of a cell finishes, and the cell gives its token up. -/
theorem finish (h : Armed watchers cells tokens) (hw : watchers[w]? = some v)
    (hstage : v.stage ≠ .finished) (hs : cells[v.cell]? = some s) (htoken : s'.token = none)
    (hone : unfinished watchers v.cell ≤ 1) :
    Armed (watchers.set w { v with stage := .finished }) (cells.set v.cell s') tokens := by
  have hlt := (List.getElem?_eq_some_iff.1 hs).1
  refine ⟨fun {j s₁} hj hdone => ?_, fun u hu hu' s₁ hj => ?_, fun hj hs₁ => ?_,
    fun hj hk hs₁ hs₂ => ?_, fun u hu => ?_⟩
  · by_cases hij : v.cell = j
    · subst hij
      obtain rfl : s' = s₁ := by simpa [hlt] using hj
      exact htoken
    · rw [List.getElem?_set_ne hij] at hj
      exact h.ended hj hdone
  · obtain ⟨k, hk⟩ := List.mem_iff_getElem?.1 hu
    by_cases hwk : w = k
    · subst hwk
      rw [List.getElem?_set_self (List.getElem?_eq_some_iff.1 hw).1] at hk
      obtain rfl := Option.some.inj hk
      exact absurd rfl hu'
    · rw [List.getElem?_set_ne hwk] at hk
      have hij : v.cell ≠ u.cell := fun e => hwk <|
        getElem?_inj_of_countP hone hw hk (by simp [hstage]) (by simp [e, hu'])
      rw [List.getElem?_set_ne hij] at hj
      exact h.running u (List.mem_of_getElem? hk) hu' hj
  · obtain ⟨s₂, hj, hs₂⟩ := holds_set hs (.inr htoken) hj hs₁
    exact h.held hj hs₂
  · obtain ⟨s₃, hj, hs₃⟩ := holds_set hs (.inr htoken) hj hs₁
    obtain ⟨s₄, hk, hs₄⟩ := holds_set hs (.inr htoken) hk hs₂
    exact h.distinct hj hk hs₃ hs₄
  · obtain hu | rfl := List.mem_or_eq_of_mem_set hu
    · exact h.issued u hu
    · exact h.issued v (List.mem_of_getElem? hw)

end Armed

namespace Tracker

variable {σ : Type} [WatchSource σ]

/-! ## The tokens of a changed tracker -/

section

variable [HeedfulSource σ]

theorem tokens_withTokens (t : Tracker σ) (tokens : Tokens) :
    (t.withTokens tokens).tokens = tokens := LawfulSource.tokens_withTokens t.source tokens

theorem tokens_markDone {t : Tracker σ} {i : Nat} {s : CallState} (hs : t.cells[i]? = some s) :
    (t.markDone i).tokens = t.tokens.cancelAny s.token := by
  rw [markDone_eq hs]
  exact tokens_withTokens t _

theorem tokens_cancelWatch {t : Tracker σ} {i : Nat} {s : CallState} (hs : t.cells[i]? = some s) :
    (t.cancelWatch i).tokens = t.tokens.cancelAny s.token := by
  rw [cancelWatch_eq hs]
  exact tokens_withTokens t _

omit [HeedfulSource σ] in
theorem tokens_finishWatcher (t : Tracker σ) (w : Nat) (v : Watcher) :
    (t.finishWatcher w v).tokens = t.tokens := by
  rw [finishWatcher_frame]
  rfl

/-- Every change hands out and cancels tokens, and does nothing else to them. -/
theorem Change.tokens {actor : Option Nat} {t t' : Tracker σ} (h : Change actor t t') :
    t.tokens.Grows t'.tokens := by
  have ended : ∀ i, t.tokens.Grows (t.markDone i).tokens := by
    intro i
    cases hs : t.cells[i]? with
    | none =>
      rw [markDone_of_none hs]
      exact .refl _
    | some s =>
      rw [tokens_markDone hs]
      exact .cancelAny _ _
  cases h with
  | learn | close | runtime => exact .refl _
  | create =>
    rw [ensureCell_frame]
    exact .refl _
  | markDone _ i => exact ended i
  | endCall => exact ended _
  | cancelWatch _ i =>
    cases hs : t.cells[i]? with
    | none =>
      rw [cancelWatch_of_none hs]
      exact .refl _
    | some s =>
      rw [tokens_cancelWatch hs]
      exact .cancelAny _ _
  | startWatcher _ i =>
    have issued : t.tokens.Grows (t.withTokens t.tokens.issue).tokens := by
      rw [tokens_withTokens]
      exact .issue _
    obtain e | ⟨s, id, -, -, -, -, -, ⟨-, e⟩ | ⟨-, e⟩⟩ := t.startWatcher_cases i
    · rw [e]
      exact .refl _
    · rw [e]
      exact issued
    · rw [e]
      exact issued
  | @openStream _ w watcher stream source hw hstage h =>
    have grown := HeedfulSource.grows_openWatch t.source watcher.taskId watcher.token
    rw [h] at grown
    exact grown
  | @failStream _ w watcher e source hw hstage h =>
    have grown := HeedfulSource.grows_openWatch t.source watcher.taskId watcher.token
    rw [h] at grown
    exact grown
  | giveUp =>
    rw [tokens_finishWatcher]
    exact .refl _
  | takeEvents => exact HeedfulSource.grows_takeEvents t.source _
  | release =>
    rw [tokens_finishWatcher]
    exact HeedfulSource.grows_release t.source _

/-! ## What every move keeps -/

/-- The books are in order, and the running watchers of ended calls are cancelled. -/
structure Guarded (t : Tracker σ) : Prop where
  kept : t.Kept
  armed : Armed t.watchers t.cells t.tokens

namespace Guarded

variable {t t' : Tracker σ}

omit [HeedfulSource σ] in
theorem new (config : TrackerConfig) (catalog : Catalog) (runtime : Bool) (source : σ) :
    (Tracker.new config catalog runtime source).Guarded :=
  ⟨kept_new config catalog runtime source, .empty _⟩

theorem markDone (h : t.Guarded) (i : Nat) :
    Armed (t.markDone i).watchers (t.markDone i).cells (t.markDone i).tokens := by
  cases hs : t.cells[i]? with
  | none =>
    rw [markDone_of_none hs]
    exact h.armed
  | some s =>
    rw [tokens_markDone hs, watchers_markDone, markDone_eq hs]
    exact h.armed.cancel hs rfl

omit [HeedfulSource σ] in
theorem finishWatcher (kept : t.Kept) (h : Armed t.watchers t.cells t.tokens) {w : Nat}
    {v : Watcher} (hw : t.watchers[w]? = some v) (hstage : v.stage ≠ .finished) :
    Armed (t.finishWatcher w v).watchers (t.finishWatcher w v).cells
      (t.finishWatcher w v).tokens := by
  obtain ⟨s, hs, -⟩ := kept.watcher v (List.mem_of_getElem? hw)
  rw [tokens_finishWatcher, finishWatcher_eq hs]
  exact h.finish hw hstage hs rfl (kept.unfinished_le_one _)

theorem change {actor : Option Nat} (h : t.Guarded) (hc : Change actor t t') : t'.Guarded := by
  refine ⟨h.kept.change hc, ?_⟩
  have grown := h.armed.grows hc.tokens
  cases hc with
  | learn hs hl =>
    refine h.armed.setCell hs (fun hdone => ?_) (.inl hl.token)
    rw [hl.token]
    exact h.armed.ended hs (hl.done.symm.trans hdone)
  | create hid =>
    rw [ensureCell, hid]
    refine h.armed.addCell rfl fun v hv => ?_
    obtain ⟨s, hs, -⟩ := h.kept.watcher v hv
    exact (List.getElem?_eq_some_iff.1 hs).1
  | markDone _ i => exact h.markDone i
  | endCall => exact h.markDone _
  | cancelWatch _ i =>
    cases hs : t.cells[i]? with
    | none =>
      rw [cancelWatch_of_none hs]
      exact h.armed
    | some s =>
      rw [tokens_cancelWatch hs, cancelWatch_eq hs]
      exact h.armed.cancel hs rfl
  | startWatcher _ i =>
    obtain e | ⟨s, id, -, hs, -, hdone, hwatching, ⟨-, e⟩ | ⟨-, e⟩⟩ := t.startWatcher_cases i
    · rw [e]
      exact h.armed
    · have hidle := (h.kept.cell hs).idle hwatching
      have hdone' : (s.watched t.tokens.next).done = false := hdone
      have started := h.armed.start hs hidle id hdone' rfl
      rw [← tokens_withTokens t t.tokens.issue] at started
      rw [e]
      exact started
    · have hidle := (h.kept.cell hs).idle hwatching
      rw [e] at grown ⊢
      exact grown.setCell hs (fun _ => rfl) (.inl hidle.symm)
  | openStream hw hstage _ => exact grown.restage hw (by simp [hstage]) _
  | failStream | takeEvents => exact grown
  | giveUp hw hstage => exact finishWatcher h.kept h.armed hw (by simp [hstage])
  | @release _ w v stream hw hstage =>
    exact finishWatcher (t := { t with source := WatchSource.release t.source stream }) h.kept
      (h.armed.grows (HeedfulSource.grows_release t.source stream)) hw (by simp [hstage])
  | close | runtime => exact h.armed

theorem changes {actor : Option Nat} (h : t.Guarded) (hc : Changes actor t t') : t'.Guarded := by
  induction hc with
  | refl => exact h
  | tail _ hc ih => exact ih.change hc

omit [HeedfulSource σ] in
theorem forgets (h : t.Guarded) (hf : Forgets t t') : t'.Guarded := by
  obtain ⟨hsource, hwatchers, hcells⟩ := hf.same
  refine ⟨h.kept.forgets hf, ?_⟩
  rw [hwatchers, hcells, Tracker.tokens, hsource]
  exact h.armed

theorem step (h : t.Guarded) (s : TrackerStep) : (t.step s).Guarded := by
  obtain ⟨u, hf, hc⟩ | ⟨millis, rfl⟩ := t.step_cases s
  · exact (h.forgets hf).changes hc
  · exact ⟨h.kept, h.armed⟩

end Guarded

end

end Tracker

end TaskWatch
