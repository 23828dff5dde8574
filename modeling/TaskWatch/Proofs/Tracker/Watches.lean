import TaskWatch.Proofs.Tracker.Armed

/-!
# What becomes of watchers

Watchers keep their numbers, cells and tokens for ever, and one that has finished stays so. A watcher
starts only before a shutdown and for a cell that is not done (`Tracker.Watches`).

This holds of every step of a tracker, and of every run. Between the steps of a run anything may
happen to the source of the watches, as long as tokens are only handed out and cancelled
(`Tracker.Heeded`).

* `Watches.of_moves`, `Guarded.moves`: every run;
* `watchers_render`: no render starts a watcher for a cell that is done.
-/

namespace TaskWatch

/-- The same watcher, later. -/
structure Watcher.Continues (v v' : Watcher) : Prop where
  cell : v'.cell = v.cell
  taskId : v'.taskId = v.taskId
  token : v'.token = v.token
  finished : v.stage = .finished → v'.stage = .finished

namespace Watcher.Continues

variable {v v' v'' : Watcher}

theorem refl (v : Watcher) : v.Continues v := ⟨rfl, rfl, rfl, id⟩

theorem trans (h : v.Continues v') (h' : v'.Continues v'') : v.Continues v'' :=
  ⟨h'.cell.trans h.cell, h'.taskId.trans h.taskId, h'.token.trans h.token,
    fun e => h'.finished (h.finished e)⟩

end Watcher.Continues

namespace Tracker

variable {σ : Type}

/-- Whether a cell is done. -/
def DoneAt (t : Tracker σ) (i : Nat) : Prop := ∃ s, t.cells[i]? = some s ∧ s.done = true

theorem doneAt_iff {t : Tracker σ} {i : Nat} :
    t.DoneAt i ↔ (t.cells[i]?).any (·.done) = true :=
  (Option.any_eq_true _ _).symm

/-- Cells are done for good. -/
theorem DoneAt.of_precedes {t t' : Tracker σ} {i : Nat} (h : t.DoneAt i)
    (hcell : ∀ {i : Nat} {s}, t.cells[i]? = some s →
      ∃ s', t'.cells[i]? = some s' ∧ CallState.Precedes s s') : t'.DoneAt i := by
  obtain ⟨s, hs, hdone⟩ := h
  obtain ⟨s', hs', hprecedes⟩ := hcell hs
  exact ⟨s', hs', hprecedes.done hdone⟩

variable [WatchSource σ]

/-- Watchers go on, tokens that are cancelled stay so, and a watcher starts only before a shutdown,
with a runtime, and for a cell that is not done. -/
structure Watches (t t' : Tracker σ) : Prop where
  tokens : t.tokens.Grows t'.tokens
  done : ∀ {i}, t.DoneAt i → t'.DoneAt i
  closed : t.closed = true → t'.closed = true
  watcher : ∀ {w : Nat} {v}, t.watchers[w]? = some v →
    ∃ v', t'.watchers[w]? = some v' ∧ v.Continues v'
  started : ∀ {w : Nat} {v'}, t.watchers[w]? = none → t'.watchers[w]? = some v' →
    t.closed = false ∧ ¬t.DoneAt v'.cell

namespace Watches

variable {t t' t'' : Tracker σ}

theorem of_eq (htokens : t.tokens.Grows t'.tokens) (hcells : t'.cells = t.cells)
    (hclosed : t'.closed = t.closed) (hwatchers : t'.watchers = t.watchers) : Watches t t' where
  tokens := htokens
  done h := by rwa [DoneAt, hcells]
  closed h := hclosed.trans h
  watcher hw := ⟨_, hwatchers ▸ hw, .refl _⟩
  started hw hw' := by rw [hwatchers, hw] at hw'; cases hw'

theorem refl (t : Tracker σ) : Watches t t := of_eq (.refl _) rfl rfl rfl

theorem trans (h : Watches t t') (h' : Watches t' t'') : Watches t t'' where
  tokens := h.tokens.trans h'.tokens
  done hd := h'.done (h.done hd)
  closed hc := h'.closed (h.closed hc)
  watcher hw := by
    obtain ⟨v', hw', hc⟩ := h.watcher hw
    obtain ⟨v'', hw'', hc'⟩ := h'.watcher hw'
    exact ⟨v'', hw'', hc.trans hc'⟩
  started {w v''} hw hw'' := by
    cases hw' : t'.watchers[w]? with
    | some v' =>
      obtain ⟨v₁, hv₁, hc⟩ := h'.watcher hw'
      obtain rfl : v₁ = v'' := Option.some.inj (hv₁.symm.trans hw'')
      rw [hc.cell]
      exact h.started hw hw'
    | none =>
      obtain ⟨hclosed, hdone⟩ := h'.started hw' hw''
      exact ⟨eq_false_of_ne_true fun e => absurd (hclosed.symm.trans (h.closed e)) (by decide),
        fun hd => hdone (h.done hd)⟩

/-- A watcher that is there later and was there before goes on. -/
theorem before (h : Watches t t') {w : Nat} {v' : Watcher} (hw' : t'.watchers[w]? = some v')
    (hlt : w < t.watchers.length) : ∃ v, t.watchers[w]? = some v ∧ v.Continues v' := by
  obtain ⟨v₁, hv₁, hc⟩ := h.watcher (List.getElem?_eq_getElem hlt)
  obtain rfl : v₁ = v' := Option.some.inj (hv₁.symm.trans hw')
  exact ⟨_, List.getElem?_eq_getElem hlt, hc⟩

/-- A cell that is done has the watchers it had before. -/
theorem lt_of_done (h : Watches t t') {w : Nat} {v' : Watcher} (hdone : t.DoneAt v'.cell)
    (hw' : t'.watchers[w]? = some v') : w < t.watchers.length := by
  by_contra hge
  exact (h.started (List.getElem?_eq_none_iff.2 (Nat.not_lt.1 hge)) hw').2 hdone

variable [HeedfulSource σ]

theorem of_change {actor : Option Nat} (h : Change actor t t') : Watches t t' := by
  refine ⟨h.tokens, fun hd => hd.of_precedes (Ages.of_change h).cell, h.closed, ?_, ?_⟩
  · intro w v hw
    obtain e | ⟨w', v', stage, hw', hstage, -, e⟩ | ⟨i, s, id, -, -, -, -, e⟩ := h.watchers
    · exact ⟨v, e ▸ hw, .refl v⟩
    · by_cases hww : w' = w
      · subst hww
        obtain rfl : v' = v := Option.some.inj (hw'.symm.trans hw)
        refine ⟨{ v' with stage := stage }, ?_, rfl, rfl, rfl, fun hf => absurd hf hstage⟩
        rw [e, List.getElem?_set_self (List.getElem?_eq_some_iff.1 hw).1]
      · exact ⟨v, by rw [e, List.getElem?_set_ne hww, hw], .refl v⟩
    · refine ⟨v, ?_, .refl v⟩
      rw [e, List.getElem?_append_left (List.getElem?_eq_some_iff.1 hw).1, hw]
  · intro w v' hw hw'
    obtain e | ⟨w', v, stage, -, -, -, e⟩ | ⟨i, s, id, hclosed, -, hs, hdone, e⟩ := h.watchers
    · rw [e, hw] at hw'
      cases hw'
    · have hlt := (List.getElem?_eq_some_iff.1 hw').1
      rw [e, List.length_set] at hlt
      exact absurd hlt (Nat.not_lt.2 (List.getElem?_eq_none_iff.1 hw))
    · rw [e, List.getElem?_append_right (List.getElem?_eq_none_iff.1 hw)] at hw'
      obtain rfl := List.mem_singleton.1 (List.mem_of_getElem? hw')
      refine ⟨hclosed, fun ⟨s₁, hs₁, hdone₁⟩ => ?_⟩
      obtain rfl : s = s₁ := Option.some.inj (hs.symm.trans hs₁)
      exact absurd (hdone.symm.trans hdone₁) (by decide)

theorem of_changes {actor : Option Nat} (h : Changes actor t t') : Watches t t' := by
  induction h with
  | refl => exact refl t
  | tail _ hc ih => exact ih.trans (of_change hc)

omit [HeedfulSource σ] in
theorem of_forgets (h : Forgets t t') : Watches t t' := by
  rw [h.frame]
  exact of_eq (.refl _) rfl rfl rfl

/-- Every step lets watchers go on. -/
theorem of_step (t : Tracker σ) (s : TrackerStep) : Watches t (t.step s) := by
  obtain ⟨u, hf, hc⟩ | ⟨millis, rfl⟩ := t.step_cases s
  · exact (of_forgets hf).trans (of_changes hc)
  · exact of_eq (.refl _) rfl rfl rfl

end Watches

/-- A watcher stays as it is until it is polled. -/
theorem Change.watcher_of_ne {actor : Option Nat} {t t' : Tracker σ} (hc : Change actor t t')
    {w : Nat} {v : Watcher} (hw : t.watchers[w]? = some v) (hactor : actor ≠ some w) :
    t'.watchers[w]? = some v := by
  have restaged : ∀ {u : Nat} {a : Watcher}, actor = some u → (t.watchers.set u a)[w]? = some v :=
    fun hu => by rwa [List.getElem?_set_ne fun e => hactor (hu.trans (congrArg some e))]
  cases hc with
  | learn | failStream | takeEvents | close | runtime => exact hw
  | create =>
    rw [ensureCell_frame]
    exact hw
  | markDone | endCall =>
    rw [watchers_markDone]
    exact hw
  | cancelWatch =>
    rw [cancelWatch_frame]
    exact hw
  | startWatcher _ i =>
    obtain e | ⟨s, id, -, -, -, -, -, ⟨-, e⟩ | ⟨-, e⟩⟩ := t.startWatcher_cases i
    · rwa [e]
    · rw [e]
      exact (List.getElem?_append_left (List.getElem?_eq_some_iff.1 hw).1).trans hw
    · rwa [e]
  | openStream => exact restaged rfl
  | giveUp | release =>
    rw [finishWatcher_frame]
    exact restaged rfl

/-- A watcher that has finished stays so. -/
theorem Change.finished {actor : Option Nat} {t t' : Tracker σ} (hc : Change actor t t')
    {w : Nat} {v : Watcher} (hw : t.watchers[w]? = some v) (hv : v.stage = .finished) :
    t'.watchers[w]? = some v := by
  obtain e | ⟨u, a, stage, hu, ha, -, e⟩ | ⟨i, s, id, -, -, -, -, e⟩ := hc.watchers
  · rw [e, hw]
  · rw [e, List.getElem?_set_ne, hw]
    rintro rfl
    exact ha (Option.some.inj (hu.symm.trans hw) ▸ hv)
  · rw [e, List.getElem?_append_left (List.getElem?_eq_some_iff.1 hw).1, hw]

theorem finished_step {t : Tracker σ} (s : TrackerStep) {w : Nat} {v : Watcher}
    (hw : t.watchers[w]? = some v) (hv : v.stage = .finished) :
    (t.step s).watchers[w]? = some v := by
  obtain ⟨u, hf, hc⟩ | ⟨millis, rfl⟩ := t.step_cases s
  · rw [← hf.same.2.1] at hw
    generalize t.step s = t' at hc
    induction hc with
    | refl => exact hw
    | tail _ hc ih => exact hc.finished ih hv
  · exact hw

/-! ## Runs -/

/-- What may happen: a step, or a change of the source in which tokens are only handed out and
cancelled. -/
def Heeds (t : Tracker σ) : Move σ → Prop
  | .step _ => True
  | .source source => t.tokens.Grows (WatchSource.tokens source)

/-- A run in which tokens that are cancelled stay so. -/
def Heeded (t : Tracker σ) : List (Move σ) → Prop
  | [] => True
  | m :: run => t.Heeds m ∧ (t.move m).Heeded run

theorem heeded_append {t : Tracker σ} {run rest : List (Move σ)} :
    t.Heeded (run ++ rest) ↔ t.Heeded run ∧ (t.moves run).Heeded rest := by
  induction run generalizing t with
  | nil => exact ⟨fun h => ⟨trivial, h⟩, And.right⟩
  | cons m run ih =>
    show t.Heeds m ∧ (t.move m).Heeded (run ++ rest) ↔ (t.Heeds m ∧ (t.move m).Heeded run) ∧ _
    rw [ih, and_assoc]
    rfl

/-- The steps of a tracker take back nothing. -/
theorem heeded_steps (t : Tracker σ) (steps : List TrackerStep) :
    t.Heeded (steps.map .step) := by
  induction steps generalizing t with
  | nil => trivial
  | cons s steps ih => exact ⟨trivial, ih _⟩

theorem Passes.of_moves (t : Tracker σ) (run : List (Move σ)) {i : Nat} {s : CallState}
    (hs : t.cells[i]? = some s) :
    ∃ s', (t.moves run).cells[i]? = some s' ∧ CallState.Precedes s s' := by
  induction run generalizing t s with
  | nil => exact ⟨s, hs, .refl s⟩
  | cons m run ih =>
    obtain ⟨s₁, hs₁, hp⟩ := (Passes.of_move t m).cell hs
    obtain ⟨s', hs', hp'⟩ := ih _ hs₁
    exact ⟨s', hs', hp.trans hp'⟩

variable [HeedfulSource σ]

theorem Guarded.moves {t : Tracker σ} (h : t.Guarded) {run : List (Move σ)}
    (hheeded : t.Heeded run) : (t.moves run).Guarded := by
  induction run generalizing t with
  | nil => exact h
  | cons m run ih =>
    obtain ⟨hm, hrest⟩ := hheeded
    refine ih ?_ hrest
    cases m with
    | step s => exact h.step s
    | source source => exact ⟨h.kept, h.armed.grows hm⟩

theorem Watches.of_moves {t : Tracker σ} {run : List (Move σ)} (hheeded : t.Heeded run) :
    Watches t (t.moves run) := by
  induction run generalizing t with
  | nil => exact .refl t
  | cons m run ih =>
    obtain ⟨hm, hrest⟩ := hheeded
    refine trans ?_ (ih hrest)
    cases m with
    | step s => exact .of_step t s
    | source source => exact .of_eq hm rfl rfl rfl

/-! ## Renders -/

section

omit [HeedfulSource σ]

/-- A render takes the call in, after the evictions that are due. -/
theorem render_eq (t : Tracker σ) {call : ToolCall} {result : ToolResult} {callId : String}
    (hid : Text.firstNonBlank? [call.id, result.toolCallId] = some callId) :
    (t.render call result).2 =
      (t.sweep.ensureCell callId).2.absorb (t.sweep.ensureCell callId).1 call result := by
  unfold render
  dsimp only
  rw [hid]
  dsimp only
  split <;> rfl

theorem render_of_none (t : Tracker σ) {call : ToolCall} {result : ToolResult}
    (hid : Text.firstNonBlank? [call.id, result.toolCallId] = none) :
    (t.render call result).2 = t.sweep := by
  unfold render
  dsimp only
  rw [hid]

omit [WatchSource σ] in
/-- The current cell of a call is its own. -/
theorem Kept.cellOf? {t : Tracker σ} (h : t.Kept) {callId : String} {i : Nat}
    (hi : t.cellOf? callId = some i) : ∃ s, t.cells[i]? = some s ∧ s.callId = callId :=
  h.entry ((cellOf?_eq_some h.keys).1 hi)

omit [WatchSource σ] in
theorem Kept.cellOf?_lt {t : Tracker σ} (h : t.Kept) {callId : String} {i : Nat}
    (hi : t.cellOf? callId = some i) : i < t.cells.length := by
  obtain ⟨s, hs, -⟩ := h.cellOf? hi
  exact (List.getElem?_eq_some_iff.1 hs).1

omit [WatchSource σ] in
theorem Kept.ensureCell_lt {t : Tracker σ} (h : t.Kept) (callId : String) :
    (t.ensureCell callId).1 < (t.ensureCell callId).2.cells.length := by
  unfold ensureCell
  split
  · next i hi => exact h.cellOf?_lt hi
  · simp

theorem startWatcher_of_doneAt {t : Tracker σ} {i : Nat} (h : t.DoneAt i) :
    t.startWatcher i = t := by
  obtain e | ⟨s, -, -, hs, -, hdone, -⟩ := t.startWatcher_cases i
  · exact e
  · obtain ⟨s₁, hs₁, hdone₁⟩ := h
    obtain rfl : s = s₁ := Option.some.inj (hs.symm.trans hs₁)
    exact absurd (hdone.symm.trans hdone₁) (by decide)

theorem doneAt_markDone {t : Tracker σ} {i : Nat} (hi : i < t.cells.length) :
    (t.markDone i).DoneAt i := by
  have hs := List.getElem?_eq_getElem hi
  rw [markDone_eq hs]
  exact ⟨_, List.getElem?_set_self hi, rfl⟩

/-- No watcher starts for a cell that is done, or whose call has ended. -/
theorem watchers_absorb {t : Tracker σ} {i : Nat} (hi : i < t.cells.length) (call : ToolCall)
    (result : ToolResult) (h : t.DoneAt i ∨ (call.finished || result.isError) = true) :
    (t.absorb i call result).watchers = t.watchers := by
  have hlearnt := Ages.of_changes
    (t.updateCell_changes none i fun s => .absorb s t.catalog call result)
  unfold absorb
  dsimp only
  split
  · rw [startWatcher_of_doneAt, watchers_markDone]
    · rfl
    · refine doneAt_markDone ?_
      rw [updateCell, List.length_modify]
      exact hi
  · next hrunning =>
    rw [startWatcher_of_doneAt]
    · rfl
    · exact (h.resolve_right hrunning).of_precedes hlearnt.cell

/-- A render of a call that is done starts no watcher, nor does one that says that the call has
ended. -/
theorem watchers_render {t : Tracker σ} {call : ToolCall} {result : ToolResult} {callId : String}
    (kept : t.Kept) (hid : Text.firstNonBlank? [call.id, result.toolCallId] = some callId)
    (h : (∃ i, t.sweep.cellOf? callId = some i ∧ t.DoneAt i) ∨
      (call.finished || result.isError) = true) :
    (t.render call result).2.watchers = t.watchers := by
  obtain ⟨-, hwatchers, hcells⟩ := t.sweep_forgets.same
  have hmade : (t.sweep.ensureCell callId).2.watchers = t.watchers := by
    rw [ensureCell_frame]
    exact hwatchers
  rw [t.render_eq hid, watchers_absorb _ call result, hmade]
  · exact h.imp_left fun ⟨i, hi, hdone⟩ => by
      rw [ensureCell, hi]
      rwa [DoneAt, hcells]
  · exact Kept.ensureCell_lt (kept.forgets t.sweep_forgets) callId

end

end Tracker

end TaskWatch
