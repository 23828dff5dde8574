import Mathlib.Data.List.Basic
import TaskWatch.Proofs.Call.Lines
import TaskWatch.Proofs.Task.Progress

/-!
# What one event does to a call

An event may change the label of a call with its tier, and its lines; all else stays
(`applyEvent_frame`). The lines after it are the end of what a log of everything would hold, when
the log starts with the lines that were there (`Ends.self`). So a snapshot with progress to show
replaces them, and any other event adds at most two lines at the end: its texts
(`Event.texts`), without those that are blank or repeat the line before them (`exists_added`).

`CallSession.event_exact` puts this together with the line that closes a watch.
-/

namespace TaskWatch

/-- The lines that show entries need no trimming. -/
theorem trimmed_displayLines (entries : List Progress) :
    Trimmed (entries.filterMap Progress.displayLine) := by
  intro line hline
  obtain ⟨p, -, hp⟩ := List.mem_filterMap.1 hline
  exact Progress.nonBlank?_displayLine hp

namespace Event

/-- The texts that an event adds to the lines: the progress it reports, or the result of a task that
completed, and what closes its watch. -/
def texts (event : Event) : List String :=
  match event.kind with
  | .snapshot => []
  | .progress | .other _ => (event.progress.bind Progress.displayLine).toList
  | .completed => event.task.toList.map (·.result) ++ [CallState.closingLine event]
  | .failed | .deleted => [CallState.closingLine event]

/-- The lines that show the progress of an event's task. -/
def shown (event : Event) : List String :=
  event.task.toList.flatMap fun task => task.progress.filterMap Progress.displayLine

theorem length_texts (event : Event) : event.texts.length ≤ 2 := by
  unfold texts
  cases event.kind with
  | snapshot => exact Nat.zero_le 2
  | progress | other => cases event.progress.bind Progress.displayLine <;> simp
  | completed => cases event.task <;> simp
  | failed | deleted => simp

/-- An event other than a snapshot adds its texts one by one. -/
theorem edits_eq_map {event : Event} (h : event.kind ≠ .snapshot) :
    event.edits = event.texts.map .append := by
  unfold edits texts CallState.closingLine
  cases hkind : event.kind with
  | snapshot => exact absurd hkind h
  | progress | other => cases event.progress.bind Progress.displayLine <;> rfl
  | completed => cases event.task <;> rfl
  | failed | deleted => rfl

/-- The lines that show progress need no trimming. -/
theorem trimmed_shown (event : Event) : Trimmed event.shown := by
  intro line hline
  obtain ⟨task, -, hline⟩ := List.mem_flatMap.1 hline
  exact trimmed_displayLines task.progress line hline

/-- A snapshot takes the lines of its task for all there are, if it has any. -/
theorem log_edits_of_snapshot {event : Event} (h : event.kind = .snapshot) (log : List String) :
    event.edits.foldl LineEdit.log log = if event.shown = [] then log else event.shown := by
  have hkept : event.shown.filterMap Text.nonBlank? = event.shown :=
    (List.filterMap_congr event.trimmed_shown).trans List.filterMap_some
  have hlog : event.edits.foldl LineEdit.log log = replacedLog log event.shown := by
    unfold edits shown
    rw [h]
    cases event.task with
    | none => rfl
    | some task => simp only [Option.toList_some, List.map_cons, List.map_nil, List.foldl_cons,
        List.foldl_nil, List.flatMap_cons, List.flatMap_nil, List.append_nil, LineEdit.log]
  rw [hlog, replacedLog, hkept]
  simp only [List.isEmpty_iff]

end Event

/-- Of some texts added one by one, those that are not blank and do not repeat the last line stay. -/
theorem exists_added (texts log : List String) :
    ∃ added, added.Sublist (texts.filterMap Text.nonBlank?) ∧
      (texts.map LineEdit.append).foldl LineEdit.log log = log ++ added := by
  induction texts generalizing log with
  | nil => exact ⟨[], .slnil, (List.append_nil log).symm⟩
  | cons text rest ih =>
    rw [List.map_cons, List.foldl_cons, LineEdit.log]
    cases htext : Text.nonBlank? text with
    | none =>
      rw [List.filterMap_cons_none htext]
      exact ih log
    | some line =>
      rw [List.filterMap_cons_some htext]
      dsimp only
      split
      · obtain ⟨added, hadded, hlog⟩ := ih log
        exact ⟨added, hadded.cons line, hlog⟩
      · obtain ⟨added, hadded, hlog⟩ := ih (log ++ [line])
        refine ⟨line :: added, hadded.cons_cons line, ?_⟩
        rw [hlog, List.append_assoc]
        rfl

namespace CallState

/-! ## The frame and the lines -/

/-- An event changes the label of a call with its tier, and the lines. -/
theorem applyEvent_frame (s : CallState) (catalog : Catalog) (event : Event) :
    (s.applyEvent catalog event).2 = { s with
      label := (s.applyEvent catalog event).2.label
      tier := (s.applyEvent catalog event).2.tier
      lines := (s.applyEvent catalog event).2.lines } := by
  rw [applyEvent_eq, edits_eq, offers_eq]

/-- What becomes of the lines is up to the edits of the event. -/
theorem lines_applyEvent (s : CallState) (catalog : Catalog) (event : Event) :
    (s.applyEvent catalog event).2.lines = (event.edits.foldl edit s).lines := by
  rw [applyEvent_eq]
  exact congrArg (·.2.2.2) (known_edits s (event.offers catalog) event.edits)

namespace Ends

variable {log : List String} {s : CallState}

/-- The lines of a call are the end of themselves. -/
theorem self (h : Ends log s) : Ends s.lines s where
  capacity := h.capacity
  lines := by
    have hlength : s.lines.length ≤ s.capacity := h.lines ▸ length_logEnd log s.capacity
    rw [logEnd, Nat.sub_eq_zero_of_le hlength, List.drop_zero]
  trimmed line hline := by
    rw [h.lines] at hline
    exact h.trimmed line (List.mem_of_mem_drop hline)

theorem lines_applyEvent (h : Ends log s) (catalog : Catalog) (event : Event) :
    (s.applyEvent catalog event).2.lines =
      logEnd (event.edits.foldl LineEdit.log s.lines) s.capacity := by
  have hcapacity : (event.edits.foldl CallState.edit s).capacity = s.capacity := by
    rw [edits_eq]
  rw [CallState.lines_applyEvent, (h.self.edits event.edits).lines, hcapacity]

/-- An event of a terminal kind leaves its closing line as the last one. -/
theorem getLast?_of_kind (h : Ends log s) (catalog : Catalog) {event : Event} {kind : EventKind}
    (hkind : event.kind = kind) (hterminal : kind.isTerminal = true) :
    (s.applyEvent catalog event).2.lines.getLast? = some (closingLine event) :=
  getLast?_applyEvent h.capacity catalog (by rwa [Event.isTerminal, hkind])

end Ends

/-! ## What an event does -/

/-- Why a task failed, as the first text that says it. -/
theorem firstNonBlank?_failureText (event : Event) :
    Text.firstNonBlank? [event.error, (event.task.map (·.error)).getD "", "failed"] =
      some (failureText event) := by
  have hfailed : Text.nonBlank? "failed" = some "failed" := by decide +kernel
  have hfirst := Text.firstNonBlank?_concat
    [event.error, (event.task.map (·.error)).getD ""] hfailed
  rwa [List.cons_append, List.cons_append, List.nil_append] at hfirst

/-- What an event does to a call. -/
structure Folds (s : CallState) (catalog : Catalog) (event : Event) : Prop where
  /-- The event is the last of its watch. -/
  last : (s.applyEvent catalog event).1 = true ↔
    event.kind = .completed ∨ event.kind = .failed ∨ event.kind = .deleted
  /-- Only the label, its tier and the lines may change. -/
  frame : ∃ label tier lines, (s.applyEvent catalog event).2 =
    { s with label := label, tier := tier, lines := lines }
  completed : event.kind = .completed →
    (s.applyEvent catalog event).2.lines.getLast? = some "completed"
  failed : event.kind = .failed → ∃ reason,
    Text.firstNonBlank? [event.error, (event.task.map (·.error)).getD "", "failed"] = some reason ∧
      (s.applyEvent catalog event).2.lines.getLast? = some ("failed: " ++ reason)
  deleted : event.kind = .deleted → ∃ reason,
    Text.firstNonBlank? [event.error, "task deleted"] = some reason ∧
      (s.applyEvent catalog event).2.lines.getLast? = some reason
  /-- An event other than a snapshot adds no more than two lines. -/
  added : event.kind ≠ .snapshot → ∃ added : List String, added.length ≤ 2 ∧
    added.Sublist (event.texts.filterMap Text.nonBlank?) ∧
      (s.applyEvent catalog event).2.lines = logEnd (s.lines ++ added) s.capacity
  /-- A snapshot shows the progress of its task, and nothing else, if there is any to show. -/
  snapshot : event.kind = .snapshot → (s.applyEvent catalog event).2.lines =
    if event.shown = [] then s.lines else logEnd event.shown s.capacity

theorem Ends.folds {log : List String} {s : CallState} (h : Ends log s) (catalog : Catalog)
    (event : Event) : s.Folds catalog event where
  last := by
    rw [applyEvent_terminal, Event.isTerminal]
    cases event.kind <;> simp [EventKind.isTerminal]
  frame := ⟨_, _, _, applyEvent_frame s catalog event⟩
  completed hkind := by
    have hlast := h.getLast?_of_kind catalog hkind rfl
    rwa [closingLine, hkind] at hlast
  failed hkind := by
    have hlast := h.getLast?_of_kind catalog hkind rfl
    rw [closingLine, hkind] at hlast
    exact ⟨failureText event, firstNonBlank?_failureText event, hlast⟩
  deleted hkind := by
    have hlast := h.getLast?_of_kind catalog hkind rfl
    have hdeleted : Text.nonBlank? "task deleted" = some "task deleted" := by decide +kernel
    rw [closingLine, hkind] at hlast
    refine ⟨_, Text.firstNonBlank?_concat [event.error] hdeleted, ?_⟩
    rw [Text.firstNonBlank?, List.findSome?_singleton]
    exact hlast
  added hkind := by
    obtain ⟨added, hadded, hlog⟩ := exists_added event.texts s.lines
    have hlength : added.length ≤ event.texts.length :=
      Nat.le_trans hadded.length_le (List.length_filterMap_le _ _)
    refine ⟨added, Nat.le_trans hlength event.length_texts, hadded, ?_⟩
    rw [h.lines_applyEvent, Event.edits_eq_map hkind, hlog]
  snapshot hkind := by
    rw [h.lines_applyEvent, Event.log_edits_of_snapshot hkind]
    split
    · exact h.self.lines.symm
    · rfl

end CallState

namespace CallSession

/-- What one event does to a call, whatever was done with it before and however many lines are
kept. -/
theorem event_exact (callId : String) (capacity : Nat) (tokens : Tokens) (actions : List Action)
    (catalog : Catalog) (event : Event) :
    (run (.new callId capacity tokens) actions).call.Folds catalog event :=
  (ends_run (s := .new callId capacity tokens) (.new callId capacity) actions).folds catalog event

end CallSession

end TaskWatch
