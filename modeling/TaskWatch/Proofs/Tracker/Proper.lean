import TaskWatch.Proofs.Tracker.Owned

/-!
# What every run of a tracker keeps

The books of a tracker are in order, every watcher has its own token, and the ids of tasks need no
trimming (`Tracker.Proper`). Every step keeps this, since every change does (`step_keeps`). What
opening, taking and letting go of streams keeps of a source is kept as well (`Change.source_keeps`).
-/

namespace TaskWatch.Tracker

variable {σ : Type} [WatchSource σ]

/-- The effect of a list of steps. -/
def run (t : Tracker σ) (steps : List TrackerStep) : Tracker σ := steps.foldl step t

theorem run_append (t : Tracker σ) (before after : List TrackerStep) :
    t.run (before ++ after) = (t.run before).run after := List.foldl_append

/-- What every change keeps is kept by every step, if it does not look at the clock, the runtime or
the evictions. -/
theorem step_keeps {P : Tracker σ → Prop}
    (hchange : ∀ {actor : Option Nat} {t t'}, Change actor t t' → P t → P t')
    (hsame : ∀ {t t' : Tracker σ}, P t → t'.cells = t.cells → t'.catalog = t.catalog →
      t'.source = t.source → P t') {t : Tracker σ} (h : P t) (s : TrackerStep) :
    P (t.step s) := by
  obtain ⟨u, hf, hc⟩ | ⟨millis, rfl⟩ := t.step_cases s
  · have hu : P u := by
      refine hsame h ?_ ?_ ?_
      · rw [hf.frame]
      · rw [hf.frame]
      · rw [hf.frame]
    generalize t.step s = t' at hc
    induction hc with
    | refl => exact hu
    | tail _ hc ih => exact hchange hc ih
  · exact hsame h rfl rfl rfl

/-- The labels of the catalog are given once and for all. -/
theorem catalog_step (t : Tracker σ) (s : TrackerStep) : (t.step s).catalog = t.catalog :=
  step_keeps (P := fun t' => t'.catalog = t.catalog) (fun hc h => hc.catalog.trans h)
    (fun h _ hcatalog _ => hcatalog.trans h) rfl s

theorem catalog_run (t : Tracker σ) (steps : List TrackerStep) :
    (t.run steps).catalog = t.catalog := by
  induction steps generalizing t with
  | nil => rfl
  | cons s steps ih => exact (ih (t.step s)).trans (t.catalog_step s)

/-- A change keeps of a source what all its operations keep. -/
theorem Change.source_keeps {P : σ → Prop}
    (htokens : ∀ {source : σ} tokens, P source → P (WatchSource.withTokens source tokens))
    (hopen : ∀ {source : σ} taskId token, P source →
      P (WatchSource.openWatch source taskId token).2)
    (htake : ∀ {source : σ} stream, P source → P (WatchSource.takeEvents source stream).2.2)
    (hrelease : ∀ {source : σ} stream, P source → P (WatchSource.release source stream))
    {actor : Option Nat} {t t' : Tracker σ} (hc : Change actor t t') (h : P t.source) :
    P t'.source := by
  have ended : ∀ i, P (t.markDone i).source := fun i => by
    cases hs : t.cells[i]? with
    | none => rwa [markDone_of_none hs]
    | some s =>
      rw [markDone_eq hs]
      exact htokens _ h
  cases hc with
  | learn | close | runtime => exact h
  | create => rwa [ensureCell_frame]
  | markDone _ i => exact ended i
  | endCall => exact ended _
  | cancelWatch _ i =>
    cases hs : t.cells[i]? with
    | none => rwa [cancelWatch_of_none hs]
    | some s =>
      rw [cancelWatch_eq hs]
      exact htokens _ h
  | startWatcher _ i =>
    obtain e | ⟨s, id, -, -, -, -, -, ⟨-, e⟩ | ⟨-, e⟩⟩ := t.startWatcher_cases i
    · rwa [e]
    · rw [e]
      exact htokens _ h
    · rw [e]
      exact htokens _ h
  | @openStream _ w v stream source hw hstage hopened =>
    have hsource : (WatchSource.openWatch t.source v.taskId v.token).2 = source := by rw [hopened]
    exact hsource ▸ hopen v.taskId v.token h
  | @failStream _ w v e source hw hstage hopened =>
    have hsource : (WatchSource.openWatch t.source v.taskId v.token).2 = source := by rw [hopened]
    exact hsource ▸ hopen v.taskId v.token h
  | giveUp => rwa [source_finishWatcher]
  | takeEvents => exact htake _ h
  | release =>
    rw [source_finishWatcher]
    exact hrelease _ h

/-- The ids of tasks need no trimming. -/
def Trimmed (t : Tracker σ) : Prop :=
  ∀ {i : Nat} {s id}, t.cells[i]? = some s → s.taskId = some id → Text.nonBlank? id = some id

theorem Change.trimmed {actor : Option Nat} {t t' : Tracker σ} (hc : Change actor t t')
    (h : t.Trimmed) : t'.Trimmed := by
  intro i s' id hs' hid
  obtain ⟨s, hs, hbecomes⟩ | ⟨callId, capacity, rfl⟩ := hc.cell hs'
  · have learnt : ∀ {s₁ : CallState}, s.Learns s₁ → s₁.taskId = some id →
        Text.nonBlank? id = some id := fun hl hid => by
      obtain hid | hid := hl.trimmed id hid
      · exact h hs hid
      · exact hid
    cases hbecomes with
    | learns hl => exact learnt hl hid
    | tokenless hl => exact learnt hl hid
    | watched | ended | unwatched => exact h hs hid
  · cases hid

variable [OwningSource σ]

/-- What every run of a tracker keeps. -/
structure Proper (t : Tracker σ) : Prop where
  guarded : t.Guarded
  owned : t.Owned
  trimmed : t.Trimmed

namespace Proper

variable {t : Tracker σ}

theorem new (config : TrackerConfig) (catalog : Catalog) (runtime : Bool) {source : σ}
    (howned : OwningSource.owned source = [])
    (hcancelled : ∀ token, (WatchSource.tokens source).isCancelled token = false) :
    (Tracker.new config catalog runtime source).Proper where
  guarded := .new config catalog runtime source
  owned := .new config catalog runtime howned hcancelled
  trimmed hs := by simp [Tracker.new] at hs

theorem change {actor : Option Nat} {t' : Tracker σ} (h : t.Proper) (hc : Change actor t t') :
    t'.Proper :=
  ⟨h.guarded.change hc, h.owned.change h.guarded hc, hc.trimmed h.trimmed⟩

theorem changes {actor : Option Nat} {t' : Tracker σ} (h : t.Proper) (hc : Changes actor t t') :
    t'.Proper := by
  induction hc with
  | refl => exact h
  | tail _ hc ih => exact ih.change hc

theorem forgets {t' : Tracker σ} (h : t.Proper) (hf : Forgets t t') : t'.Proper := by
  refine ⟨h.guarded.forgets hf, h.owned.forgets hf, ?_⟩
  rw [Trimmed, hf.same.2.2]
  exact h.trimmed

theorem step (h : t.Proper) (s : TrackerStep) : (t.step s).Proper where
  guarded := h.guarded.step s
  owned := h.owned.step h.guarded s
  trimmed := step_keeps (P := Trimmed) (fun hc h => hc.trimmed h)
    (fun h hcells _ _ => by rwa [Trimmed, hcells]) h.trimmed s

theorem run (h : t.Proper) (steps : List TrackerStep) : (t.run steps).Proper := by
  induction steps generalizing t with
  | nil => exact h
  | cons s steps ih => exact ih (h.step s)

/-- The source changes, and cancels only tokens of its streams. -/
theorem source (h : t.Proper) {source : σ}
    (howned : OwningSource.owned source ⊆ OwningSource.owned t.source)
    (hgrows : t.tokens.Grows (WatchSource.tokens source))
    (hcancels : t.tokens.CancelsOnly (OwningSource.owned t.source) (WatchSource.tokens source)) :
    Proper { t with source := source } where
  guarded := ⟨h.guarded.kept, h.guarded.armed.grows hgrows⟩
  owned := h.owned.source h.guarded howned hgrows hcancels
  trimmed := h.trimmed

end Proper

end TaskWatch.Tracker
