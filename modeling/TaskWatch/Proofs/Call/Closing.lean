import TaskWatch.Proofs.Call.Watch
import TaskWatch.Proofs.Text.NonBlank

/-!
# Events folded into a call

Events are folded into a call one by one (`CallState.fold`). The last of a watch leaves its line as
the last of the call, whatever was there before (`CallState.getLast?_applyEvent`).
-/

namespace TaskWatch

namespace CallState

/-- The call after events were folded into it, one after the other. -/
def fold (s : CallState) (catalog : Catalog) (events : List Event) : CallState :=
  events.foldl (fun s event => (s.applyEvent catalog event).2) s

theorem fold_append (s : CallState) (catalog : Catalog) (events events' : List Event) :
    s.fold catalog (events ++ events') = (s.fold catalog events).fold catalog events' :=
  List.foldl_append

theorem Learns.fold (s : CallState) (catalog : Catalog) (events : List Event) :
    Learns s (s.fold catalog events) := by
  induction events generalizing s with
  | nil => exact refl s
  | cons event events ih => exact (applyEvent s catalog event).trans (ih _)

/-- The line that the last event of a watch leaves. -/
def closingLine (event : Event) : String :=
  match event.kind with
  | .failed => "failed: " ++ failureText event
  | .deleted => (Text.nonBlank? event.error).getD "task deleted"
  | _ => "completed"

theorem getLast?_appendLine {s : CallState} (hcap : 1 ≤ s.capacity) {line : String}
    (hline : Text.nonBlank? line = some line) :
    (s.appendLine line).2.lines.getLast? = some line := by
  unfold appendLine
  rw [hline]
  dsimp only
  split
  · assumption
  · rw [keepLast, List.getLast?_drop, if_neg, List.getLast?_concat]
    rw [List.length_append, List.length_singleton]
    omega

theorem nonBlank?_failureText (event : Event) :
    Text.nonBlank? (failureText event) = some (failureText event) := by
  unfold failureText
  cases h : Text.firstNonBlank? [event.error, (event.task.map (·.error)).getD ""] with
  | none => decide +kernel
  | some text => exact Text.nonBlank?_of_firstNonBlank? h

/-- What closes a watch is never blank, and needs no trimming. -/
theorem nonBlank?_closingLine (event : Event) :
    Text.nonBlank? (closingLine event) = some (closingLine event) := by
  unfold closingLine
  split
  · exact Text.nonBlank?_append rfl (by decide +kernel) (nonBlank?_failureText event)
  · cases herror : Text.nonBlank? event.error with
    | none => decide +kernel
    | some error => exact Text.nonBlank?_of_eq_some herror
  · decide +kernel

/-- The last event of a watch leaves its line as the last of the call. -/
theorem getLast?_applyEvent {s : CallState} (hcap : 1 ≤ s.capacity) (catalog : Catalog)
    {event : Event} (he : event.isTerminal = true) :
    (s.applyEvent catalog event).2.lines.getLast? = some (closingLine event) := by
  have updated := Learns.updateFromEvent s catalog event
  have hline := nonBlank?_closingLine event
  unfold applyEvent
  unfold closingLine at hline ⊢
  unfold Event.isTerminal at he
  cases hkind : event.kind with
  | snapshot | progress | other =>
    rw [hkind] at he
    cases he
  | completed =>
    rw [hkind] at hline
    dsimp only
    split
    · next task _ =>
      have shown := updated.trans (.appendLine _ task.result)
      exact getLast?_appendLine (shown.capacity ▸ hcap) hline
    · exact getLast?_appendLine (updated.capacity ▸ hcap) hline
  | failed =>
    rw [hkind] at hline
    exact getLast?_appendLine (updated.capacity ▸ hcap) hline
  | deleted =>
    rw [hkind] at hline
    exact getLast?_appendLine hcap hline

end CallState

end TaskWatch
