import TaskWatch.Proofs.Tracker.Watches

/-!
# What is done to one cell

Much of what happens to a tracker concerns one cell only: the other cells stay as they are, no cell
becomes or ceases to be current, and the only evictions that are planned are of the cell itself
(`Tracker.Confined`). All that a watcher does is of this kind (`Confined.poll`), whoever else watches
the same task.

A tracker that has always had a runtime is `Prompt`: none of its evictions waits for a render, so a
render finds nothing to sweep (`Prompt.sweep`).
-/

namespace TaskWatch.Tracker

variable {σ : Type} {i : Nat} {t t' t'' : Tracker σ}

/-- What happens is confined to a cell. -/
structure Confined (i : Nat) (t t' : Tracker σ) : Prop where
  cell : ∀ {j : Nat}, j ≠ i → t'.cells[j]? = t.cells[j]?
  calls : t'.calls = t.calls
  runtime : t'.runtime = t.runtime
  planned : ∃ new, t'.evictions = t.evictions ++ new ∧
    ∀ e ∈ new, e.cell = i ∧ (t.runtime = true → e.deferred = false)

namespace Confined

/-- Only the cell, the watchers and the source have changed. -/
theorem of_eq (hcell : ∀ {j : Nat}, j ≠ i → t'.cells[j]? = t.cells[j]?)
    (hcalls : t'.calls = t.calls) (hruntime : t'.runtime = t.runtime)
    (hevictions : t'.evictions = t.evictions) : Confined i t t' :=
  ⟨hcell, hcalls, hruntime, [], by rw [hevictions, List.append_nil], nofun⟩

theorem refl (i : Nat) (t : Tracker σ) : Confined i t t := of_eq (fun _ => rfl) rfl rfl rfl

theorem source (i : Nat) (t : Tracker σ) (source : σ) :
    Confined i t { t with source := source } := of_eq (fun _ => rfl) rfl rfl rfl

theorem trans (h : Confined i t t') (h' : Confined i t' t'') : Confined i t t'' where
  cell hj := (h'.cell hj).trans (h.cell hj)
  calls := h'.calls.trans h.calls
  runtime := h'.runtime.trans h.runtime
  planned := by
    obtain ⟨new, he, hnew⟩ := h.planned
    obtain ⟨new', he', hnew'⟩ := h'.planned
    refine ⟨new ++ new', by rw [he', he, List.append_assoc], fun e hm => ?_⟩
    obtain hm | hm := List.mem_append.1 hm
    · exact hnew e hm
    · rw [← h.runtime]
      exact hnew' e hm

theorem deferred_evictionOf (t : Tracker σ) (i : Nat) (h : t.runtime = true) :
    (t.evictionOf i).deferred = false := by
  rw [evictionOf, if_pos h]

/-- The cell is changed, and its cleanup may be claimed. -/
theorem set {cells : List CallState} {watchers : List Watcher} {source : σ} {s : CallState}
    (claimed : Bool) (hcells : cells = t.cells.set i s) :
    Confined i t { t with
      cells := cells
      watchers := watchers
      source := source
      evictions := if claimed then t.evictions ++ [t.evictionOf i] else t.evictions } where
  cell hj := by rw [hcells, List.getElem?_set_ne (Ne.symm hj)]
  calls := rfl
  runtime := rfl
  planned := by
    cases claimed with
    | true =>
      refine ⟨[t.evictionOf i], rfl, fun e hm => ?_⟩
      rw [List.mem_singleton.1 hm]
      exact ⟨cell_evictionOf t i, deferred_evictionOf t i⟩
    | false => exact ⟨[], (List.append_nil _).symm, nofun⟩

theorem setCell (t : Tracker σ) (i : Nat) (s : CallState) : Confined i t (t.setCell i s) :=
  set false rfl

theorem updateCell (t : Tracker σ) (i : Nat) (change : CallState → CallState) :
    Confined i t (t.updateCell i change) := by
  cases hs : t.cells[i]? with
  | none => rw [updateCell_of_none hs]; exact refl i t
  | some s => rw [updateCell_eq hs]; exact setCell t i _

theorem finishWatcher (t : Tracker σ) (w : Nat) (v : Watcher) :
    Confined v.cell t (t.finishWatcher w v) := by
  cases hs : t.cells[v.cell]? with
  | none =>
    rw [Tracker.finishWatcher, finishWatch, hs]
    exact of_eq (fun _ => rfl) rfl rfl rfl
  | some s => rw [finishWatcher_eq hs]; exact set _ rfl

variable [WatchSource σ]

theorem markDone (t : Tracker σ) (i : Nat) : Confined i t (t.markDone i) := by
  cases hs : t.cells[i]? with
  | none => rw [markDone_of_none hs]; exact refl i t
  | some s => rw [markDone_eq hs]; exact set _ rfl

theorem cancelWatch (t : Tracker σ) (i : Nat) : Confined i t (t.cancelWatch i) := by
  cases hs : t.cells[i]? with
  | none => rw [cancelWatch_of_none hs]; exact refl i t
  | some s => rw [cancelWatch_eq hs]; exact set false rfl

theorem startWatcher (t : Tracker σ) (i : Nat) : Confined i t (t.startWatcher i) := by
  obtain e | ⟨s, id, -, -, -, -, -, ⟨-, e⟩ | ⟨-, e⟩⟩ := t.startWatcher_cases i
  · rw [e]; exact refl i t
  · rw [e]; exact set false rfl
  · rw [e]; exact set false rfl

theorem absorb (t : Tracker σ) (i : Nat) (call : ToolCall) (result : ToolResult) :
    Confined i t (t.absorb i call result) := by
  have learnt := updateCell t i (·.absorb t.catalog call result)
  unfold Tracker.absorb
  refine trans ?_ (startWatcher _ i)
  split
  · exact learnt.trans (markDone _ i)
  · exact learnt

/-! ## Watchers -/

theorem foldEvents (t : Tracker σ) (i : Nat) (events : List Event) :
    Confined i t (t.foldEvents i events).2 := by
  induction events generalizing t with
  | nil => exact refl i t
  | cons event rest ih =>
    rw [Tracker.foldEvents]
    split
    · exact refl i t
    · next s hs =>
      have learnt := setCell t i (s.applyEvent t.catalog event).2
      dsimp only
      split
      · exact learnt.trans (markDone _ i)
      · exact learnt.trans (ih _)

theorem follow (t : Tracker σ) (w : Nat) (v : Watcher) (j : Nat) :
    Confined v.cell t (t.follow w v j) := by
  have folded := (source v.cell t (WatchSource.takeEvents t.source j).2.2).trans
    (foldEvents _ v.cell (WatchSource.takeEvents t.source j).1)
  unfold Tracker.follow
  dsimp only
  split
  · exact (folded.trans (source v.cell _ _)).trans (finishWatcher _ w v)
  · exact folded

theorem wake (t : Tracker σ) {w : Nat} {v : Watcher} (hw : t.watchers[w]? = some v) :
    Confined v.cell t (t.wake w) := by
  unfold Tracker.wake
  rw [hw]
  dsimp only
  split
  · exact refl v.cell t
  · exact follow t w v _
  · split
    · next j source _ =>
      have opened : Confined v.cell t { t with
          source := source
          watchers := t.watchers.set w { v with stage := .following j } } :=
        of_eq (fun _ => rfl) rfl rfl rfl
      exact opened.trans (follow _ w { v with stage := .following j } j)
    · next e after _ =>
      have failed := source v.cell t after
      split
      · exact (failed.trans (updateCell _ v.cell _)).trans (finishWatcher _ w v)
      · exact failed.trans (finishWatcher _ w v)

/-- A poll of a watcher leaves the cells of all other calls as they are. -/
theorem poll (t : Tracker σ) {w : Nat} {v : Watcher} (hw : t.watchers[w]? = some v) :
    (∀ {j : Nat}, j ≠ v.cell → (t.poll w).cells[j]? = t.cells[j]?) ∧
      (t.poll w).calls = t.calls :=
  have woken := wake { t with runtime := true } hw
  ⟨woken.cell, woken.calls⟩

end Confined

/-! ## Where there has always been a runtime -/

/-- There is a runtime, and no eviction waits for a render. -/
structure Prompt (t : Tracker σ) : Prop where
  runtime : t.runtime = true
  evictions : ∀ e ∈ t.evictions, e.deferred = false

namespace Prompt

theorem new (config : TrackerConfig) (catalog : Catalog) (source : σ) :
    (Tracker.new config catalog true source).Prompt := ⟨rfl, nofun⟩

theorem confined (h : t.Prompt) (hc : Confined i t t') : t'.Prompt where
  runtime := hc.runtime.trans h.runtime
  evictions e he := by
    obtain ⟨new, hplanned, hnew⟩ := hc.planned
    rw [hplanned] at he
    obtain he | he := List.mem_append.1 he
    · exact h.evictions e he
    · exact (hnew e he).2 h.runtime

/-- A render finds nothing to sweep. -/
theorem sweep (h : t.Prompt) : t.sweep = t := by
  have idle : ∀ k, t.sweepEviction k = t := fun k => by
    unfold sweepEviction
    split
    · rfl
    · next e hk => rw [if_neg (by simp [h.evictions e (List.mem_of_getElem? hk)])]
  unfold Tracker.sweep
  generalize List.range t.evictions.length = ks
  induction ks with
  | nil => rfl
  | cons k ks ih => rw [List.foldl_cons, idle, ih]

theorem ensureCell (h : t.Prompt) (callId : String) : (t.ensureCell callId).2.Prompt := by
  rw [ensureCell_frame]
  exact ⟨h.runtime, h.evictions⟩

theorem forgets (h : t.Prompt) (hf : Forgets t t') : t'.Prompt := by
  induction hf with
  | refl => exact h
  | tail _ hf ih =>
    have waits : ∀ {k : Nat} {e e' : Eviction} {u : Tracker σ}, u.Prompt → u.evictions[k]? = some e →
        e'.deferred = e.deferred → ∀ e₁ ∈ u.evictions.set k e', e₁.deferred = false := by
      intro k e e' u hu hk hsame e₁ he₁
      obtain he₁ | rfl := List.mem_or_eq_of_mem_set he₁
      · exact hu.evictions e₁ he₁
      · exact hsame.trans (hu.evictions e (List.mem_of_getElem? hk))
    cases hf with
    | startDelay hk => exact ⟨ih.runtime, waits ih hk rfl⟩
    | run hk =>
      rw [runEviction, evict_eq]
      exact ⟨ih.runtime, waits ih hk rfl⟩

theorem foldl {α : Type} {f : Tracker σ → α → Tracker σ} (hf : ∀ t a, t.Prompt → (f t a).Prompt)
    (h : t.Prompt) (as : List α) : (as.foldl f t).Prompt := by
  induction as generalizing t with
  | nil => exact h
  | cons a as ih => exact ih (hf t a h)

variable [WatchSource σ]

theorem step (h : t.Prompt) {s : TrackerStep} (hs : s ≠ .runtime false) : (t.step s).Prompt := by
  cases s with
  | render call result =>
    show (t.render call result).2.Prompt
    cases hid : Text.firstNonBlank? [call.id, result.toolCallId] with
    | none =>
      rw [render_of_none t hid, h.sweep]
      exact h
    | some callId =>
      rw [render_eq t hid, h.sweep]
      exact (h.ensureCell callId).confined (.absorb _ _ call result)
  | updateSnapshot callId label lines finished =>
    show (t.updateSnapshot callId label lines finished).Prompt
    unfold updateSnapshot
    split
    · exact h
    · next callId _ =>
      have shown := (h.ensureCell callId).confined (.updateCell _ (t.ensureCell callId).1 fun s =>
        (s.updateLabel label .external).2.replaceLines lines)
      dsimp only
      split
      · exact shown.confined (.markDone _ _)
      · exact shown
  | cancelSession sessionId =>
    show (t.cancelSession sessionId).2.Prompt
    unfold cancelSession
    split
    · exact h
    · exact foldl (fun t i ht => ht.confined (.markDone t i)) h _
  | cancelCall callId =>
    show (t.cancelCall callId).2.Prompt
    unfold cancelCall
    split
    · exact h.confined (.cancelWatch t _)
    · exact h
  | shutdown =>
    have closed : Prompt { t with closed := true } := ⟨h.runtime, h.evictions⟩
    exact foldl (fun t i ht => ht.confined (.cancelWatch t i)) closed _
  | poll w =>
    have beside : { t with runtime := true } = t := by rw [← h.runtime]
    cases hw : t.watchers[w]? with
    | none =>
      show (t.poll w).Prompt
      rw [Tracker.poll, Tracker.beside, beside, wake, hw]
      exact h
    | some v =>
      show (t.poll w).Prompt
      rw [Tracker.poll, Tracker.beside, beside]
      exact ⟨h.runtime, (h.confined (.wake t hw)).evictions⟩
  | pollEviction k => exact h.forgets (t.pollEviction_forgets k)
  | advance millis => exact ⟨h.runtime, h.evictions⟩
  | runtime available =>
    cases available with
    | true => exact ⟨rfl, h.evictions⟩
    | false => exact absurd rfl hs

/-- The caller has never left its runtime. -/
theorem moves (h : t.Prompt) {run : List (Move σ)} (hrun : .step (.runtime false) ∉ run) :
    (t.moves run).Prompt := by
  induction run generalizing t with
  | nil => exact h
  | cons m run ih =>
    obtain ⟨hm, hrest⟩ := not_or.1 (mt List.mem_cons.2 hrun)
    refine ih ?_ hrest
    cases m with
    | step s => exact h.step fun e => hm (e ▸ rfl)
    | source source => exact ⟨h.runtime, h.evictions⟩

end Prompt

end TaskWatch.Tracker
