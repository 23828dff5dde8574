import TaskWatch.Proofs.Tracker.Confined
import TaskWatch.Proofs.Tracker.Start
import TaskWatch.Proofs.Tracker.Watchers

/-!
# What others leave of a call

The state of a call is changed by its watcher and by the caller, and by nobody else: the other
watchers have cells of their own (`Kept.cell_poll`). So while the caller leaves a cell as it is,

* a watcher that is about to start stays so until it is polled (`Starts.run`);
* a watcher that has finished leaves its call in the state it was left in (`Received.run`).
-/

namespace TaskWatch.Tracker

variable {σ : Type} [WatchSource σ]

/-- A step is not one of the caller that changes a cell. -/
def SparesCell (t : Tracker σ) (i : Nat) (s : TrackerStep) : Prop :=
  s.actor = none → (t.step s).cells[i]? = t.cells[i]?

/-- The caller changes a cell in none of some steps. -/
def SparesCellAll (t : Tracker σ) (i : Nat) : List TrackerStep → Prop
  | [] => True
  | s :: steps => t.SparesCell i s ∧ (t.step s).SparesCellAll i steps

theorem sparesCellAll_append (t : Tracker σ) (i : Nat) (before after : List TrackerStep) :
    t.SparesCellAll i (before ++ after) ↔
      t.SparesCellAll i before ∧ (t.run before).SparesCellAll i after := by
  induction before generalizing t with
  | nil => exact iff_of_eq (true_and _).symm
  | cons s before ih =>
    show t.SparesCell i s ∧ (t.step s).SparesCellAll i (before ++ after) ↔ _
    rw [ih, ← and_assoc]
    rfl

variable {t : Tracker σ} {w : Nat} {v : Watcher} {s : CallState}

/-- The poll of another watcher leaves a cell as it is. -/
theorem Kept.cell_poll (kept : t.Kept) (hw : t.watchers[w]? = some v)
    (hs : t.cells[v.cell]? = some s) (hrunning : v.stage ≠ .finished ∨ s.watching = false) {u : Nat}
    (hne : u ≠ w) : (t.poll u).cells[v.cell]? = t.cells[v.cell]? := by
  cases hu : t.watchers[u]? with
  | none =>
    rw [poll, beside, wake]
    dsimp only
    rw [hu]
  | some a =>
    by_cases hcell : a.cell = v.cell
    · by_cases hstage : a.stage = .finished
      · rw [poll_finished hu hstage]
      · -- The cell would have another running watcher, or be watched though it is not.
        obtain hv | hidle := hrunning
        · have same := getElem?_inj_of_countP (kept.unfinished_le_one v.cell) hu hw
            (by simp [hcell, hstage]) (by simp [hv])
          exact absurd same hne
        · obtain ⟨s', hs', hwatching, -⟩ := kept.watching (List.mem_of_getElem? hu) hstage
          obtain rfl : s' = s := Option.some.inj (hs'.symm.trans (hcell ▸ hs))
          exact absurd (hidle.symm.trans hwatching) (by decide)
    · exact (Confined.poll t hu).1 (Ne.symm hcell)

/-- A cell stays as it is until its watcher is polled or the caller changes it. -/
theorem Kept.cell_step (kept : t.Kept) (hw : t.watchers[w]? = some v)
    (hs : t.cells[v.cell]? = some s) (hrunning : v.stage ≠ .finished ∨ s.watching = false)
    {r : TrackerStep} (hr : r.actor ≠ some w) (hspares : t.SparesCell v.cell r) :
    (t.step r).cells[v.cell]? = some s := by
  rw [← hs]
  cases hactor : r.actor with
  | none => exact hspares hactor
  | some u =>
    cases r with
    | poll u' => exact kept.cell_poll hw hs hrunning fun e => hr (congrArg some e)
    | _ => cases hactor

/-! ## Watchers that are about to start -/

section

variable [OwningSource σ]

/-- A watcher that is about to start stays so until it is polled. -/
theorem Starts.step (h : t.Starts w v s) (proper : t.Proper) {r : TrackerStep}
    (hr : r.actor ≠ some w) (hspares : t.SparesCell v.cell r) : (t.step r).Starts w v s := by
  have hstage : v.stage ≠ .finished := by
    rw [h.stage]
    nofun
  have hcell := proper.guarded.kept.cell_step h.watcher h.cell (.inl hstage) hr hspares
  obtain ⟨hwatcher, huncancelled⟩ := proper.owned.uncancelled_step proper.guarded hr h.watcher
    h.stage ⟨s, hcell, h.token⟩ h.uncancelled
  exact { h with watcher := hwatcher, cell := hcell, uncancelled := huncancelled }

theorem Starts.run (h : t.Starts w v s) (proper : t.Proper) {steps : List TrackerStep}
    (hsteps : ∀ r ∈ steps, r.actor ≠ some w) (hspares : t.SparesCellAll v.cell steps) :
    (t.run steps).Starts w v s := by
  induction steps generalizing t with
  | nil => exact h
  | cons r steps ih =>
    exact ih (h.step proper (hsteps r List.mem_cons_self) hspares.1) (proper.step r)
      (fun r' hr' => hsteps r' (List.mem_cons_of_mem r hr')) hspares.2

end

/-! ## Watchers that have finished -/

variable {catalog : Catalog} {events : List Event}

/-- What a watcher that has finished has received stays. -/
theorem Received.step (h : t.Received w v s catalog events) (kept : t.Kept) {r : TrackerStep}
    (hspares : t.SparesCell v.cell r) : (t.step r).Received w v s catalog events := by
  by_cases hr : r.actor = some w
  · cases r with
    | poll u =>
      obtain rfl := Option.some.inj hr
      show (t.poll u).Received u v s catalog events
      rwa [poll_finished h.watcher rfl]
    | _ => cases hr
  · have hcell := kept.cell_step h.watcher h.cell (.inr rfl) hr hspares
    exact ⟨finished_step r h.watcher rfl, hcell⟩

theorem Received.run [OwningSource σ] (h : t.Received w v s catalog events) (proper : t.Proper)
    {steps : List TrackerStep} (hspares : t.SparesCellAll v.cell steps) :
    (t.run steps).Received w v s catalog events := by
  induction steps generalizing t with
  | nil => exact h
  | cons r steps ih =>
    exact ih (h.step proper.guarded.kept hspares.1) (proper.step r) hspares.2

end TaskWatch.Tracker
