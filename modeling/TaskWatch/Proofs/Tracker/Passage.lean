import TaskWatch.Proofs.Tracker.Kept

/-!
# How cells and evictions pass through a step

Cells and evictions keep their numbers for ever, so a step is described by what becomes of each of
them. Changes let cells grow older and plan evictions at the end of the list (`Tracker.Ages`);
evictions that go on start their delay and run, and nothing else is touched (`Tracker.Expires`). A
step is both, one after the other (`Tracker.Passes`).
-/

namespace TaskWatch

namespace Eviction

/-- An eviction as it is planned, when a cell that becomes disposable now is kept until `cleanup`. -/
def Fresh (cleanup : Nat) (e : Eviction) : Prop :=
  e.ran = false ∧ (e.deferred = true ∧ e.due = some cleanup ∨ e.deferred = false ∧ e.due = none)

/-- What becomes of an eviction while the clock stands at `now`. -/
structure Continues (now cleanup : Nat) (e e' : Eviction) : Prop where
  cell : e'.cell = e.cell
  deferred : e'.deferred = e.deferred
  due : ∀ {d}, e.due = some d → e'.due = some d
  start : ∀ {d}, e.due = none → e'.due = some d → e.deferred = false ∧ d = cleanup
  ran : e.ran = true → e'.ran = true
  run : e.ran = false → e'.ran = true → ∃ d, e'.due = some d ∧ d ≤ now

namespace Continues

variable {now cleanup : Nat} {e e' e'' : Eviction}

theorem refl (now cleanup : Nat) (e : Eviction) : Continues now cleanup e e where
  cell := rfl
  deferred := rfl
  due h := h
  start h h' := by rw [h] at h'; cases h'
  ran := id
  run h h' := by rw [h] at h'; cases h'

theorem trans (h : Continues now cleanup e e') (h' : Continues now cleanup e' e'') :
    Continues now cleanup e e'' where
  cell := h'.cell.trans h.cell
  deferred := h'.deferred.trans h.deferred
  due e₁ := h'.due (h.due e₁)
  start {d} e₁ e₂ := by
    cases e₃ : e'.due with
    | none => exact h.deferred ▸ h'.start e₃ e₂
    | some d' =>
      obtain rfl : d' = d := Option.some.inj ((h'.due e₃).symm.trans e₂)
      exact h.start e₁ e₃
  ran e₁ := h'.ran (h.ran e₁)
  run e₁ e₂ := by
    cases e₃ : e'.ran with
    | false => exact h'.run e₃ e₂
    | true =>
      obtain ⟨d, hd, hle⟩ := h.run e₁ e₃
      exact ⟨d, h'.due hd, hle⟩

end Continues

end Eviction

namespace Tracker

variable {σ : Type}

theorem fresh_evictionOf (t : Tracker σ) (i : Nat) : (t.evictionOf i).Fresh t.cleanupTime := by
  unfold evictionOf
  split
  · exact ⟨rfl, .inr ⟨rfl, rfl⟩⟩
  · exact ⟨rfl, .inl ⟨rfl, rfl⟩⟩

/-- The same moment, after changes: cells are older, and evictions may have been planned. -/
structure Ages (t t' : Tracker σ) : Prop where
  now : t'.now = t.now
  config : t'.config = t.config
  cell : ∀ {i : Nat} {s}, t.cells[i]? = some s → ∃ s', t'.cells[i]? = some s' ∧ CallState.Precedes s s'
  planned : ∃ new, t'.evictions = t.evictions ++ new ∧ ∀ e ∈ new, Eviction.Fresh t.cleanupTime e

/-- The same moment, after evictions went on. -/
structure Expires (t t' : Tracker σ) : Prop where
  now : t'.now = t.now
  config : t'.config = t.config
  cells : t'.cells = t.cells
  length : t'.evictions.length = t.evictions.length
  eviction : ∀ {k : Nat} {e}, t.evictions[k]? = some e →
    ∃ e', t'.evictions[k]? = some e' ∧ Eviction.Continues t.now t.cleanupTime e e'

theorem cleanupTime_eq {t t' : Tracker σ} (hnow : t'.now = t.now) (hconfig : t'.config = t.config) :
    t'.cleanupTime = t.cleanupTime := by
  rw [cleanupTime, cleanupTime, hnow, hconfig]

/-- One cell is older, and all others are as they were. -/
theorem exists_precedes {cells : List CallState} {i j : Nat} {s s' s₁ : CallState}
    (hs : cells[i]? = some s) (h : s.Precedes s') (hj : cells[j]? = some s₁) :
    ∃ s₂, (cells.set i s')[j]? = some s₂ ∧ CallState.Precedes s₁ s₂ := by
  have hlt := (List.getElem?_eq_some_iff.1 hs).1
  by_cases e : i = j
  · subst e
    obtain rfl : s = s₁ := Option.some.inj (hs.symm.trans hj)
    exact ⟨s', by simp [hlt], h⟩
  · exact ⟨s₁, by rw [List.getElem?_set_ne e, hj], .refl s₁⟩

namespace Ages

variable {t t' t'' : Tracker σ}

theorem trans (h : Ages t t') (h' : Ages t' t'') : Ages t t'' where
  now := h'.now.trans h.now
  config := h'.config.trans h.config
  cell hs := by
    obtain ⟨s', hs', hp⟩ := h.cell hs
    obtain ⟨s'', hs'', hp'⟩ := h'.cell hs'
    exact ⟨s'', hs'', hp.trans hp'⟩
  planned := by
    obtain ⟨new, he, hf⟩ := h.planned
    obtain ⟨new', he', hf'⟩ := h'.planned
    refine ⟨new ++ new', by rw [he', he, List.append_assoc], fun e hm => ?_⟩
    rcases List.mem_append.1 hm with hm | hm
    · exact hf e hm
    · exact cleanupTime_eq h.now h.config ▸ hf' e hm

/-- Nothing but the source, the watchers and the like has changed. -/
theorem of_eq (hnow : t'.now = t.now) (hconfig : t'.config = t.config)
    (hcells : t'.cells = t.cells) (hevictions : t'.evictions = t.evictions) : Ages t t' where
  now := hnow
  config := hconfig
  cell hs := ⟨_, hcells ▸ hs, .refl _⟩
  planned := ⟨[], by simp [hevictions], by simp⟩

theorem refl (t : Tracker σ) : Ages t t := of_eq rfl rfl rfl rfl

/-- One cell is older. -/
theorem of_set {i : Nat} {s s' : CallState} (hs : t.cells[i]? = some s) (h : s.Precedes s')
    (hnow : t'.now = t.now) (hconfig : t'.config = t.config) (hcells : t'.cells = t.cells.set i s')
    (claimed : Bool) (hevictions : t'.evictions =
      if claimed then t.evictions ++ [t.evictionOf i] else t.evictions) : Ages t t' where
  now := hnow
  config := hconfig
  cell hj := hcells ▸ exists_precedes hs h hj
  planned := by
    cases claimed with
    | true => exact ⟨[t.evictionOf i], hevictions, by simpa using t.fresh_evictionOf i⟩
    | false => exact ⟨[], by simp [hevictions], by simp⟩

theorem ensureCell (t : Tracker σ) (callId : String) : Ages t (t.ensureCell callId).2 := by
  unfold Tracker.ensureCell
  split
  · exact refl t
  · refine ⟨rfl, rfl, fun hs => ⟨_, ?_, .refl _⟩, [], by simp, by simp⟩
    rw [List.getElem?_append_left (List.getElem?_eq_some_iff.1 hs).1, hs]

theorem finishWatcher (t : Tracker σ) (w : Nat) (watcher : Watcher) :
    Ages t (t.finishWatcher w watcher) := by
  cases hs : t.cells[watcher.cell]? with
  | none =>
    rw [Tracker.finishWatcher, Tracker.finishWatch, hs]
    exact of_eq rfl rfl rfl rfl
  | some s =>
    rw [finishWatcher_eq hs]
    exact of_set hs (.unwatched s) rfl rfl rfl _ rfl

variable [WatchSource σ]

theorem markDone (t : Tracker σ) (i : Nat) : Ages t (t.markDone i) := by
  cases hs : t.cells[i]? with
  | none =>
    rw [markDone_of_none hs]
    exact refl t
  | some s =>
    rw [markDone_eq hs]
    exact of_set hs (.ended s) rfl rfl rfl _ rfl

theorem cancelWatch (t : Tracker σ) (i : Nat) : Ages t (t.cancelWatch i) := by
  cases hs : t.cells[i]? with
  | none =>
    rw [cancelWatch_of_none hs]
    exact refl t
  | some s =>
    rw [cancelWatch_eq hs]
    exact of_set hs (.tokenless s) rfl rfl rfl false rfl

theorem startWatcher (t : Tracker σ) (i : Nat) : Ages t (t.startWatcher i) := by
  rcases t.startWatcher_cases i with e | ⟨s, id, -, hs, -, hdone, -, ⟨-, e⟩ | ⟨-, e⟩⟩
  · exact e.symm ▸ refl t
  · rw [e]
    exact of_set hs (.watched _ hdone) rfl rfl rfl false rfl
  · rw [e]
    exact of_set hs ((CallState.Precedes.of_learns (.appendLine s _)).trans (.tokenless _)) rfl rfl rfl
      false rfl

theorem of_change {actor : Option Nat} (h : Change actor t t') : Ages t t' := by
  cases h with
  | learn hs hl => exact of_set hs (.of_learns hl) rfl rfl rfl false rfl
  | create => exact ensureCell t _
  | markDone _ i => exact markDone t i
  | endCall => exact markDone t _
  | cancelWatch _ i => exact cancelWatch t i
  | startWatcher _ i => exact startWatcher t i
  | giveUp => exact finishWatcher t _ _
  | @release _ w watcher stream =>
    have dropped : Ages t { t with source := WatchSource.release t.source stream } :=
      of_eq rfl rfl rfl rfl
    exact dropped.trans (finishWatcher _ w watcher)
  | openStream | failStream | takeEvents | close | runtime => exact of_eq rfl rfl rfl rfl

theorem of_changes {actor : Option Nat} (h : Changes actor t t') : Ages t t' := by
  induction h with
  | refl => exact refl t
  | tail _ hc ih => exact ih.trans (of_change hc)

end Ages

namespace Expires

variable {t t' t'' : Tracker σ}

theorem refl (t : Tracker σ) : Expires t t where
  now := rfl
  config := rfl
  cells := rfl
  length := rfl
  eviction h := ⟨_, h, .refl _ _ _⟩

theorem trans (h : Expires t t') (h' : Expires t' t'') : Expires t t'' where
  now := h'.now.trans h.now
  config := h'.config.trans h.config
  cells := h'.cells.trans h.cells
  length := h'.length.trans h.length
  eviction hk := by
    obtain ⟨e', hk', hc⟩ := h.eviction hk
    obtain ⟨e'', hk'', hc'⟩ := h'.eviction hk'
    rw [h.now, cleanupTime_eq h.now h.config] at hc'
    exact ⟨e'', hk'', hc.trans hc'⟩

/-- One eviction goes on. -/
theorem of_set {k : Nat} {e e' : Eviction} (hk : t.evictions[k]? = some e)
    (h : Eviction.Continues t.now t.cleanupTime e e') (hnow : t'.now = t.now)
    (hconfig : t'.config = t.config) (hcells : t'.cells = t.cells)
    (hevictions : t'.evictions = t.evictions.set k e') : Expires t t' where
  now := hnow
  config := hconfig
  cells := hcells
  length := by rw [hevictions, List.length_set]
  eviction {j e₁} hj := by
    have hlt := (List.getElem?_eq_some_iff.1 hk).1
    rw [hevictions]
    by_cases hjk : k = j
    · subst hjk
      obtain rfl : e = e₁ := Option.some.inj (hk.symm.trans hj)
      exact ⟨e', by simp [hlt], h⟩
    · exact ⟨e₁, by rw [List.getElem?_set_ne hjk, hj], .refl _ _ _⟩

theorem of_forget (h : Forget t t') : Expires t t' := by
  cases h with
  | @startDelay k e hk hran hdeferred hdue =>
    have continues :
        Eviction.Continues t.now t.cleanupTime e { e with due := some t.cleanupTime } :=
      ⟨rfl, rfl, fun h => (by rw [hdue] at h; cases h),
        fun _ h => ⟨hdeferred, (Option.some.inj h).symm⟩, id, fun h h' => (by rw [h] at h'; cases h')⟩
    exact of_set hk continues rfl rfl rfl rfl
  | @run k e due hk hran hdue hpast =>
    have continues : Eviction.Continues t.now t.cleanupTime e { e with ran := true } :=
      ⟨rfl, rfl, id, fun h h' => (by rw [h] at h'; cases h'), fun _ => rfl,
        fun _ _ => ⟨due, hdue, hpast⟩⟩
    rw [runEviction, evict_eq]
    exact of_set hk continues rfl rfl rfl rfl

theorem of_forgets (h : Forgets t t') : Expires t t' := by
  induction h with
  | refl => exact refl t
  | tail _ hf ih => exact ih.trans (of_forget hf)

end Expires

/-- What becomes of cells and evictions in a step, whatever it is. -/
structure Passes (t t' : Tracker σ) : Prop where
  config : t'.config = t.config
  now : t.now ≤ t'.now
  cell : ∀ {i : Nat} {s}, t.cells[i]? = some s →
    ∃ s', t'.cells[i]? = some s' ∧ CallState.Precedes s s'
  eviction : ∀ {k : Nat} {e}, t.evictions[k]? = some e →
    ∃ e', t'.evictions[k]? = some e' ∧ Eviction.Continues t.now t.cleanupTime e e'
  fresh : ∀ {k : Nat} {e}, t.evictions[k]? = none → t'.evictions[k]? = some e →
    Eviction.Fresh t'.cleanupTime e

namespace Passes

variable {t u t' : Tracker σ}

/-- Cells and evictions are as they were. -/
theorem of_eq (hconfig : t'.config = t.config) (hnow : t.now ≤ t'.now) (hcells : t'.cells = t.cells)
    (hevictions : t'.evictions = t.evictions) : Passes t t' where
  config := hconfig
  now := hnow
  cell hs := ⟨_, hcells ▸ hs, .refl _⟩
  eviction hk := ⟨_, hevictions ▸ hk, .refl _ _ _⟩
  fresh hk hk' := by rw [hevictions, hk] at hk'; cases hk'

theorem of_expires_ages (h : Expires t u) (h' : Ages u t') : Passes t t' where
  config := h'.config.trans h.config
  now := Nat.le_of_eq (h'.now.trans h.now).symm
  cell hs := h'.cell (h.cells ▸ hs)
  eviction {k e} hk := by
    obtain ⟨e', hk', hc⟩ := h.eviction hk
    obtain ⟨new, hnew, -⟩ := h'.planned
    refine ⟨e', ?_, hc⟩
    rw [hnew, List.getElem?_append_left (List.getElem?_eq_some_iff.1 hk').1, hk']
  fresh {k e} hk hk' := by
    obtain ⟨new, hnew, hfresh⟩ := h'.planned
    have hle : u.evictions.length ≤ k := h.length ▸ List.getElem?_eq_none_iff.1 hk
    rw [hnew, List.getElem?_append_right hle] at hk'
    rw [cleanupTime_eq h'.now h'.config]
    exact hfresh e (List.mem_of_getElem? hk')

/-- Every step lets cells and evictions pass. -/
theorem of_step [WatchSource σ] (t : Tracker σ) (step : TrackerStep) : Passes t (t.step step) := by
  obtain ⟨u, hf, hc⟩ | ⟨millis, rfl⟩ := t.step_cases step
  · exact of_expires_ages (.of_forgets hf) (.of_changes hc)
  · exact of_eq rfl (Nat.le_add_right _ _) rfl rfl

end Passes

end Tracker

end TaskWatch
