import TaskWatch.Proofs.Call.Event

/-!
# Calls that see the same snapshot

Two calls that keep as many lines show the same ones after a snapshot with progress to show,
whatever was done with each of them before, and after every event that both of them see from then on
(`CallSession.snapshot_converges`). The snapshot leaves nothing of the lines that were there
(`Ends.lines_snapshot`), and what a later event does to the lines depends on the lines and on how
many are kept, not on the label, the ids or the catalog (`lines_fold_congr`).
-/

namespace TaskWatch

namespace CallState

variable {s s' : CallState}

/-- The lines after an event depend on the lines before it and on how many are kept. -/
theorem lines_applyEvent_congr (hlines : s'.lines = s.lines) (hcapacity : s'.capacity = s.capacity)
    (catalog catalog' : Catalog) (event : Event) :
    (s'.applyEvent catalog' event).2.lines = (s.applyEvent catalog event).2.lines := by
  rw [lines_applyEvent, lines_applyEvent]
  exact lines_edits_congr hlines hcapacity event.edits

theorem capacity_applyEvent_congr (hcapacity : s'.capacity = s.capacity)
    (catalog catalog' : Catalog) (event : Event) :
    (s'.applyEvent catalog' event).2.capacity = (s.applyEvent catalog event).2.capacity := by
  rw [(Learns.applyEvent s' catalog' event).capacity, (Learns.applyEvent s catalog event).capacity]
  exact hcapacity

/-- Calls with the same lines have the same lines after the same events. -/
theorem lines_fold_congr (hlines : s'.lines = s.lines) (hcapacity : s'.capacity = s.capacity)
    (catalog catalog' : Catalog) (events : List Event) :
    (s'.fold catalog' events).lines = (s.fold catalog events).lines := by
  induction events generalizing s s' with
  | nil => exact hlines
  | cons event events ih =>
    apply ih (lines_applyEvent_congr hlines hcapacity catalog catalog' event)
    exact capacity_applyEvent_congr hcapacity catalog catalog' event

/-- A snapshot with progress to show leaves no other lines. -/
theorem Ends.lines_snapshot {log : List String} (h : Ends log s) (catalog : Catalog) {event : Event}
    (hkind : event.kind = .snapshot) (hshown : event.shown ≠ []) :
    (s.applyEvent catalog event).2.lines = logEnd event.shown s.capacity := by
  rw [(h.folds catalog event).snapshot hkind, if_neg hshown]

end CallState

namespace CallSession

open CallState

/-- Two calls that keep as many lines, each with a history of its own, show the same lines after a
snapshot with progress to show, and after each of the events that follow it. -/
theorem snapshot_converges (callId callId' : String) {capacity capacity' : Nat}
    (hcapacity : max capacity' 1 = max capacity 1) (tokens tokens' : Tokens)
    (actions actions' : List Action) (catalog catalog' : Catalog) {event : Event}
    (hkind : event.kind = .snapshot) (hshown : event.shown ≠ []) (events : List Event) :
    let s := (run (.new callId capacity tokens) actions).call
    let s' := (run (.new callId' capacity' tokens') actions').call
    ∀ n, (s'.fold catalog' (event :: events.take n)).lines =
      (s.fold catalog (event :: events.take n)).lines := by
  intro s s' n
  have hsame : s'.capacity = s.capacity := by
    rw [capacity_run, capacity_run]
    exact hcapacity
  have hends : Ends (logged actions) s :=
    ends_run (.new callId capacity) actions
  have hends' : Ends (logged actions') s' :=
    ends_run (.new callId' capacity') actions'
  have hlines : (s'.applyEvent catalog' event).2.lines = (s.applyEvent catalog event).2.lines := by
    rw [hends.lines_snapshot catalog hkind hshown, hends'.lines_snapshot catalog' hkind hshown,
      hsame]
  exact lines_fold_congr hlines (capacity_applyEvent_congr hsame catalog catalog' event) catalog
    catalog' (events.take n)

/-- A watcher that was there from the start and one that comes late, which keep one line each. -/
theorem late_watcher_converges :
    let actions : List Action := [.setTaskId "t", .appendLine "queued", .appendLine "one third",
      .updateLabel "Nightly" .external]
    let event : Event := {
      kind := .snapshot
      task := some { id := "t", progress := [
        { text := "one third" }, { text := " half ", status := "running" }, { text := " " },
        { timestamp := ⟨60, 0⟩ }] } }
    let events : List Event := [
      { kind := .progress, progress := some { text := "half" } },
      { kind := .completed, task := some { id := "t", result := "ok" } }]
    let s := (run (.new "early" 1 {}) actions).call
    let s' := (run (.new "late" 0 {}) []).call
    (max 0 1 = max 1 1 ∧ event.kind = .snapshot ∧ event.shown ≠ []) ∧
      ∀ n, (s'.fold {} (event :: events.take n)).lines =
        (s.fold {} (event :: events.take n)).lines := by
  intro actions event events s s'
  have hshown : event.shown ≠ [] := by decide +kernel
  exact ⟨⟨rfl, rfl, hshown⟩,
    snapshot_converges "early" "late" rfl {} {} actions [] {} {} rfl hshown events⟩

end CallSession

end TaskWatch
