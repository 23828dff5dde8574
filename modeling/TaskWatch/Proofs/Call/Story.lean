import Mathlib.Data.List.Destutter
import TaskWatch.CommandLine
import TaskWatch.Proofs.Call.Event
import TaskWatch.Proofs.Task.Event

/-!
# What is printed and what is kept

Whoever follows a task on the command line sees the lines of its events printed one after the other
(`Event.report`), and a call that watches the task adds the texts of the same events to its lines
(`Event.texts`). The rules are the same: an event that was read off a watch, other than a snapshot,
prints what remains of its texts when they are trimmed and blank ones are left out
(`Event.report_eq`). Only repeats are told apart: a call does not add a line that is its last one.
So as long as there is room for all, the lines of the call are what was printed, without repeats
(`CallState.lines_eq_destutter`).
-/

namespace TaskWatch

/-! ## One event -/

namespace Event

/-- The first text that is not empty is the first that is not blank if they are trimmed. -/
theorem firstNonEmpty?_map_trim (texts : List String) :
    firstNonEmpty? (texts.map Text.trim) = Text.firstNonBlank? texts := by
  induction texts with
  | nil => rfl
  | cons text rest ih =>
    rw [Text.firstNonBlank?, List.findSome?_cons, List.map_cons, firstNonEmpty?, Text.nonBlank?_eq]
    by_cases hempty : Text.trim text = ""
    · rw [if_pos hempty, List.find?_cons_of_neg (by simpa using hempty)]
      exact ih
    · rw [if_neg hempty, List.find?_cons_of_pos (by simpa using hempty)]

/-- The error of an event that was read off a watch is trimmed. -/
theorem trim_error {line : String} {event : Event} (h : ofLine line = .ok event) :
    Text.trim event.error = event.error := by
  rw [ofLine] at h
  split at h
  · cases h
  · obtain ⟨task, -, rfl⟩ := ofWire_eq_ok_iff.1 h
    exact Text.trim_trim _

variable {event : Event}

/-- The end of a task prints its texts, trimmed and without blank ones. -/
theorem reportEnd_eq (herror : Text.trim event.error = event.error)
    (hterminal : event.isTerminal = true) :
    event.reportEnd = event.texts.filterMap Text.nonBlank? := by
  have hclosing : [CallState.closingLine event].filterMap Text.nonBlank? =
      [CallState.closingLine event] := List.filterMap_cons_some (CallState.nonBlank?_closingLine event)
  unfold reportEnd texts
  unfold isTerminal at hterminal
  cases hkind : event.kind with
  | snapshot | progress | other =>
    rw [hkind] at hterminal
    cases hterminal
  | completed =>
    have hlast : CallState.closingLine event = "completed" := by rw [CallState.closingLine, hkind]
    dsimp only
    rw [List.filterMap_append, hclosing, hlast]
    cases event.task with
    | none => rfl
    | some task =>
      have hresult := Text.nonBlank?_eq task.result
      rw [Option.map_some, Option.getD_some, Option.toList_some, List.map_singleton]
      split
      · next hempty =>
        rw [if_pos hempty] at hresult
        rw [List.filterMap_cons_none hresult]
        rfl
      · next hne =>
        rw [if_neg hne] at hresult
        rw [List.filterMap_cons_some hresult]
        rfl
  | failed =>
    have hfirst : firstNonEmpty? [event.error, Text.trim ((event.task.map (·.error)).getD "")] =
        Text.firstNonBlank? [event.error, (event.task.map (·.error)).getD ""] := by
      rw [← firstNonEmpty?_map_trim, List.map_cons, List.map_singleton, herror]
    dsimp only
    rw [hclosing, hfirst, CallState.closingLine, hkind]
    rfl
  | deleted =>
    dsimp only
    rw [hclosing, CallState.closingLine, hkind]
    dsimp only
    rw [Text.nonBlank?_eq, herror]
    split <;> rfl

/-- While a task runs, nothing is printed and nothing added but its progress. -/
theorem report_of_running (hkind : event.kind ≠ .snapshot) (hrunning : event.isTerminal = false) :
    event.reportEnd = [] ∧
      event.texts = (event.progress.bind Progress.displayLine).toList := by
  unfold reportEnd texts
  unfold isTerminal at hrunning
  cases hcase : event.kind with
  | snapshot => exact absurd hcase hkind
  | progress | other => exact ⟨rfl, rfl⟩
  | completed | failed | deleted =>
    rw [hcase] at hrunning
    cases hrunning

/-- An event prints the texts that it adds to the lines of a call, trimmed and without blank ones. -/
theorem report_eq (herror : Text.trim event.error = event.error) (hkind : event.kind ≠ .snapshot)
    (hprogress : event.isTerminal = true → event.progress = none) :
    event.report = event.texts.filterMap Text.nonBlank? := by
  cases hterminal : event.isTerminal with
  | true =>
    rw [report, hprogress hterminal, reportEnd_eq herror hterminal]
    rfl
  | false =>
    obtain ⟨hend, htexts⟩ := report_of_running hkind hterminal
    rw [report, hend, htexts, List.append_nil]
    cases hline : event.progress.bind Progress.displayLine with
    | none => rfl
    | some line =>
      obtain ⟨p, -, hp⟩ := Option.bind_eq_some_iff.1 hline
      rw [Option.toList_some, List.filterMap_cons_some (Progress.nonBlank?_displayLine hp),
        List.filterMap_nil]

end Event

/-! ## The log of some texts -/

/-- Texts that are added one by one to a log come to be what they are without blank ones, each of
them only if it does not repeat the one before it. -/
theorem log_append_concat (texts init : List String) (last : String) :
    (texts.map LineEdit.append).foldl LineEdit.log (init ++ [last]) =
      init ++ (texts.filterMap Text.nonBlank?).destutter' (· ≠ ·) last := by
  -- only the last line can be repeated, so what stands before it takes no part
  induction texts generalizing init last with
  | nil => rfl
  | cons text rest ih =>
    rw [List.map_cons, List.foldl_cons, LineEdit.log]
    cases htext : Text.nonBlank? text with
    | none =>
      rw [List.filterMap_cons_none htext]
      exact ih init last
    | some line =>
      rw [List.filterMap_cons_some htext, List.getLast?_concat]
      dsimp only
      split
      · next hsame =>
        rw [ih, List.destutter'_cons_neg _ (not_not.2 (Option.some.inj hsame))]
      · next hne =>
        rw [ih, List.destutter'_cons_pos _ fun heq => hne (congrArg some heq), List.append_assoc,
          List.singleton_append]

theorem log_append_nil (texts : List String) :
    (texts.map LineEdit.append).foldl LineEdit.log [] =
      (texts.filterMap Text.nonBlank?).destutter (· ≠ ·) := by
  induction texts with
  | nil => rfl
  | cons text rest ih =>
    rw [List.map_cons, List.foldl_cons, LineEdit.log]
    cases htext : Text.nonBlank? text with
    | none =>
      rw [List.filterMap_cons_none htext]
      exact ih
    | some line =>
      rw [List.filterMap_cons_some htext]
      exact log_append_concat rest [] line

namespace CallState

/-- The lines of a call are the end of a log before and after events are folded into it. -/
theorem Ends.fold {log : List String} {s : CallState} (h : Ends log s) (catalog : Catalog)
    (events : List Event) :
    Ends ((events.flatMap Event.edits).foldl LineEdit.log log) (s.fold catalog events) := by
  induction events generalizing log s with
  | nil => exact h
  | cons event rest ih =>
    have hlines := CallState.lines_applyEvent s catalog event
    have hcapacity : (s.applyEvent catalog event).2.capacity =
        (event.edits.foldl CallState.edit s).capacity := by
      rw [edits_eq, (Learns.applyEvent s catalog event).capacity]
    rw [List.flatMap_cons, List.foldl_append]
    exact ih (.of_lines hlines hcapacity (h.edits event.edits))

/-- A call that has room for everything that is printed of some events that were read off a watch has
the lines that are printed of them, but for repeats, if none of the events is a snapshot and none
that ends the task reports progress as well. -/
theorem lines_eq_destutter (callId : String) {capacity : Nat} (catalog : Catalog)
    {events : List Event} (hread : ∀ event ∈ events, ∃ line, Event.ofLine line = .ok event)
    (hkind : ∀ event ∈ events, event.kind ≠ .snapshot)
    (hprogress : ∀ event ∈ events, event.isTerminal = true → event.progress = none)
    (hroom : (events.flatMap Event.report).length ≤ capacity) :
    ((CallState.new callId capacity).fold catalog events).lines =
      (events.flatMap Event.report).destutter (· ≠ ·) := by
  have hedits : events.flatMap Event.edits = (events.flatMap Event.texts).map .append := by
    rw [List.map_flatMap]
    exact List.flatMap_congr fun event hevent => Event.edits_eq_map (hkind event hevent)
  have hreport : events.flatMap Event.report =
      (events.flatMap Event.texts).filterMap Text.nonBlank? := by
    rw [List.filterMap_flatMap]
    refine List.flatMap_congr fun event hevent => ?_
    obtain ⟨line, hline⟩ := hread event hevent
    exact Event.report_eq (Event.trim_error hline) (hkind event hevent) (hprogress event hevent)
  have hends := (Ends.new callId capacity).fold catalog events
  have hcapacity : ((CallState.new callId capacity).fold catalog events).capacity =
      max capacity 1 := (Learns.fold _ catalog events).capacity
  have hlength := (List.destutter_sublist (· ≠ ·) (events.flatMap Event.report)).length_le
  rw [hends.lines, hcapacity, hedits, log_append_nil, ← hreport, logEnd,
    Nat.sub_eq_zero_of_le (by omega), List.drop_zero]

/-- A task that reports the same progress twice and fails, seen by a call that keeps three lines. -/
theorem lines_of_failure :
    let half : Event := {
      kind := .progress
      progress := some { text := "half", status := "running" } }
    let failed : Event := { kind := .failed, error := "no space" }
    let events := [half, half, failed]
    ((∀ event ∈ events, ∃ line, Event.ofLine line = .ok event) ∧
        (∀ event ∈ events, event.kind ≠ .snapshot) ∧
        (∀ event ∈ events, event.isTerminal = true → event.progress = none) ∧
        (events.flatMap Event.report).length ≤ 3) ∧
      ((CallState.new "c" 3).fold {} events).lines =
        ["running — half", "failed: no space"] := by
  intro half failed events
  have hhalf : Event.ofLine ("\x7b\"type\":\"Progress\",\"progress\":" ++
      "\x7b\"text\":\" half \",\"status\":\"running\"\x7d\x7d") = .ok half := by decide +kernel
  have hfailed : Event.ofLine "\x7b\"type\":\"failed\",\"error\":\" no space \"\x7d" =
      .ok failed := by decide +kernel
  have hread : ∀ event ∈ events, ∃ line, Event.ofLine line = .ok event :=
    List.forall_mem_cons.2 ⟨⟨_, hhalf⟩, List.forall_mem_cons.2 ⟨⟨_, hhalf⟩,
      List.forall_mem_singleton.2 ⟨_, hfailed⟩⟩⟩
  have hkind : ∀ event ∈ events, event.kind ≠ .snapshot := by decide
  have hprogress : ∀ event ∈ events, event.isTerminal = true → event.progress = none := by decide
  have hreport : events.flatMap Event.report =
      ["running — half", "running — half", "failed: no space"] := by decide +kernel
  have hroom : (events.flatMap Event.report).length ≤ 3 := by rw [hreport]; decide
  refine ⟨⟨hread, hkind, hprogress, hroom⟩, ?_⟩
  rw [lines_eq_destutter "c" {} hread hkind hprogress hroom, hreport]
  decide

end CallState

end TaskWatch
