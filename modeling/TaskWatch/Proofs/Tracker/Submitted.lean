import TaskWatch.Proofs.Metadata.Submission
import TaskWatch.Proofs.Tracker.Start
import TaskWatch.Proofs.Tracker.Watches

/-!
# Rendering the call of a submitted task

A call whose result carries the metadata of a submitted task is about that task and has its label
from the first render on: the metadata is asked before all else that a call says, and neither the end
of the call nor the start of its watcher changes what is known of it (`Tracker.SameCalls`).

* `Tracker.submission_recovered`: what is found in the metadata, and what a new tracker makes of it.
-/

namespace TaskWatch

namespace CallReading

variable {result : ToolResult}

/-- The metadata of the result is asked for the task before all else. -/
theorem taskId_ofCall {taskId : String}
    (h : Metadata.plainTaskId? result.metadata = some taskId) (call : ToolCall) :
    (ofCall call result).taskId = some taskId := by
  rw [ofCall_eq]
  dsimp only
  rw [List.findSome?_cons, h]

/-- The metadata of the result is asked for the label before all else. -/
theorem label_ofCall {label : String}
    (h : Metadata.plainLabel? result.metadata = some label) (call : ToolCall) :
    (ofCall call result).label = some label := by
  rw [ofCall_eq]
  dsimp only
  rw [List.findSome?_cons, h]

end CallReading

namespace CallState

theorem named_ensureInitial (s : CallState) (lines : List String) :
    (s.ensureInitial lines).named = s.named := by
  have hseed : s.ensureInitial lines = s.edit (.seed lines) := rfl
  rw [hseed, edit_eq]
  rfl

/-- Any label is taken before there is one. -/
theorem named_updateLabel {s : CallState} (htier : s.tier = .none) {label : String}
    (hkept : Text.nonBlank? label = some label) :
    (s.updateLabel label .metadata).2.named = (label, .metadata) := by
  have haccepts : s.accepts label .metadata = true := by
    unfold accepts
    rw [htier]
    rfl
  rw [updateLabel, hkept]
  dsimp only
  rw [if_pos haccepts]
  rfl

/-- A label that is found in a new call is its label. -/
theorem named_absorb_new (callId : String) (capacity : Nat) (catalog : Catalog) {call : ToolCall}
    {result : ToolResult} {label : String}
    (hlabel : (CallReading.ofCall call result).label = some label)
    (hkept : Text.nonBlank? label = some label) :
    ((CallState.new callId capacity).absorb catalog call result).named = (label, .metadata) := by
  unfold absorb
  dsimp only
  rw [named_ensureInitial, absorbLabel, hlabel, setSessionId_eq]
  refine named_updateLabel ?_ hkept
  cases (CallReading.ofCall call result).taskId with
  | none => rfl
  | some id =>
    dsimp only
    rw [setTaskId_eq]
    rfl

end CallState

namespace Tracker

variable {σ : Type}

/-- Two trackers have the same calls, about the same tasks and under the same labels. -/
structure SameCalls (t t' : Tracker σ) : Prop where
  calls : t'.calls = t.calls
  cell : ∀ {i : Nat} {s}, t.cells[i]? = some s →
    ∃ s', t'.cells[i]? = some s' ∧ s'.taskId = s.taskId ∧ s'.named = s.named

namespace SameCalls

variable {t t' t'' : Tracker σ}

theorem refl (t : Tracker σ) : SameCalls t t := ⟨rfl, fun hs => ⟨_, hs, rfl, rfl⟩⟩

theorem trans (h : SameCalls t t') (h' : SameCalls t' t'') : SameCalls t t'' where
  calls := h'.calls.trans h.calls
  cell hs := by
    obtain ⟨s', hs', htask, hnamed⟩ := h.cell hs
    obtain ⟨s'', hs'', htask', hnamed'⟩ := h'.cell hs'
    exact ⟨s'', hs'', htask'.trans htask, hnamed'.trans hnamed⟩

/-- One cell has changed, and is about the same task under the same label. -/
theorem of_set {j : Nat} {s s' : CallState} (hs : t.cells[j]? = some s)
    (hcalls : t'.calls = t.calls) (hcells : t'.cells = t.cells.set j s')
    (htask : s'.taskId = s.taskId) (hnamed : s'.named = s.named) : SameCalls t t' where
  calls := hcalls
  cell {i u} hu := by
    rw [hcells]
    by_cases hij : j = i
    · subst hij
      obtain rfl : s = u := Option.some.inj (hs.symm.trans hu)
      exact ⟨s', List.getElem?_set_self (List.getElem?_eq_some_iff.1 hs).1, htask, hnamed⟩
    · exact ⟨u, (List.getElem?_set_ne hij).trans hu, rfl, rfl⟩

variable [WatchSource σ]

theorem markDone (t : Tracker σ) (i : Nat) : SameCalls t (t.markDone i) := by
  cases hs : t.cells[i]? with
  | none => rw [markDone_of_none hs]; exact refl t
  | some s => rw [markDone_eq hs]; exact of_set hs rfl rfl rfl rfl

theorem startWatcher (t : Tracker σ) (i : Nat) : SameCalls t (t.startWatcher i) := by
  obtain e | ⟨s, id, -, hs, -, -, -, ⟨-, e⟩ | ⟨-, e⟩⟩ := t.startWatcher_cases i
  · rw [e]
    exact refl t
  · rw [e]
    exact of_set hs rfl rfl rfl rfl
  · rw [e, CallState.appendLine_eq]
    exact of_set hs rfl rfl rfl rfl

end SameCalls

variable [WatchSource σ]

/-- A call that is taken in leaves its cell as the state absorbs it, up to lines and watch. -/
theorem absorb_sameCalls (t : Tracker σ) (i : Nat) (call : ToolCall) (result : ToolResult) :
    SameCalls (t.updateCell i (·.absorb t.catalog call result)) (t.absorb i call result) := by
  unfold absorb
  dsimp only
  split
  · exact (SameCalls.markDone _ i).trans (.startWatcher _ i)
  · exact .startWatcher _ i

/-- The first render of a call leaves a new state that has taken in the call. -/
theorem state?_render_new (config : TrackerConfig) (catalog : Catalog) (runtime : Bool) (source : σ)
    {call : ToolCall} {result : ToolResult} {callId : String}
    (hid : Text.firstNonBlank? [call.id, result.toolCallId] = some callId) :
    ∃ s, ((new config catalog runtime source).render call result).2.state? callId = some s ∧
      s.taskId = ((CallState.new callId config.progressCapacity).absorb catalog call result).taskId ∧
      s.named =
        ((CallState.new callId config.progressCapacity).absorb catalog call result).named := by
  have hmade : (new config catalog runtime source).ensureCell callId = (0,
      { new config catalog runtime source with
        cells := [CallState.new callId config.progressCapacity]
        calls := [(callId, 0)] }) := ensureCell_of_none rfl
  have hrender : ((new config catalog runtime source).render call result).2 =
      ((new config catalog runtime source).ensureCell callId).2.absorb 0 call result :=
    render_eq _ hid
  have hsame := absorb_sameCalls ((new config catalog runtime source).ensureCell callId).2 0 call
    result
  rw [← hrender, hmade] at hsame
  obtain ⟨s, hs, htask, hnamed⟩ := hsame.cell (i := 0) rfl
  refine ⟨s, ?_, htask, hnamed⟩
  have hcell : ((new config catalog runtime source).render call result).2.cellOf? callId =
      some 0 := by
    rw [cellOf?, hsame.calls]
    simp [updateCell]
  rw [state?, Text.trim_of_nonBlank? (Text.nonBlank?_of_firstNonBlank? hid), hcell]
  exact hs

/-- What the metadata of the result tells overrules all else that a new call says. -/
theorem state?_render_metadata (config : TrackerConfig) (catalog : Catalog) (runtime : Bool)
    (source : σ) {call : ToolCall} {result : ToolResult} {callId : String}
    (hid : Text.firstNonBlank? [call.id, result.toolCallId] = some callId) :
    ∃ s, ((new config catalog runtime source).render call result).2.state? callId = some s ∧
      (∀ id, Metadata.plainTaskId? result.metadata = some id → Text.nonBlank? id = some id →
        s.taskId = some id) ∧
      ∀ label, Metadata.plainLabel? result.metadata = some label →
        Text.nonBlank? label = some label → s.named = (label, .metadata) := by
  obtain ⟨s, hs, htask, hnamed⟩ := state?_render_new config catalog runtime source hid
  refine ⟨s, hs, fun id hfound hid => ?_, fun label hfound hlabel => ?_⟩
  · rw [htask, CallState.taskId_absorb, CallReading.taskId_ofCall hfound]
    exact hid
  · rw [hnamed]
    exact CallState.named_absorb_new _ _ _ (CallReading.label_ofCall hfound call) hlabel

/-- In the metadata of a submitted task its id and its label are found again, and a new tracker that
renders a call with this metadata binds the call to the task and labels it from metadata. A call
without an id, its own or that of its result, is not tracked. -/
theorem submission_recovered (task : Task) (labels : Metadata.SubmissionLabels)
    (catalog : Catalog) (config : TrackerConfig) (catalog' : Catalog) (runtime : Bool) (source : σ)
    (call : ToolCall) (result : ToolResult) :
    let text := (Metadata.submission task labels catalog).text
    let rendered := ((new config catalog' runtime source).render call
      { result with metadata := text }).2
    Metadata.TaskMetadata.ofText text =
        ⟨Text.nonBlank? task.id, labels.shown? catalog, []⟩ ∧
      match Text.firstNonBlank? [call.id, result.toolCallId] with
      | none => rendered.size = 0
      | some callId => ∃ s, rendered.state? callId = some s ∧
          (∀ taskId, Text.nonBlank? task.id = some taskId → s.taskId = some taskId) ∧
          ∀ label, labels.shown? catalog = some label →
            s.label = label ∧ s.tier = .metadata := by
  refine ⟨Metadata.ofText_submission task labels catalog, ?_⟩
  have htask := Metadata.plainTaskId?_submission task labels catalog
  have hlabel := Metadata.plainLabel?_submission task labels catalog
  generalize (Metadata.submission task labels catalog).text = text at htask hlabel
  cases hid : Text.firstNonBlank? [call.id, result.toolCallId] with
  | none =>
    have hnone : Text.firstNonBlank?
        [call.id, ({ result with metadata := text } : ToolResult).toolCallId] = none := hid
    exact congrArg size (render_of_none _ hnone)
  | some callId =>
    have hsome : Text.firstNonBlank?
        [call.id, ({ result with metadata := text } : ToolResult).toolCallId] = some callId := hid
    obtain ⟨s, hs, hbound, hnamed⟩ :=
      state?_render_metadata config catalog' runtime source hsome
    refine ⟨s, hs, fun id hkept => ?_, fun label hkept => ?_⟩
    · exact hbound id (htask.trans hkept) (Text.nonBlank?_of_eq_some hkept)
    · have h := hnamed label (hlabel.trans hkept) (Text.nonBlank?_of_firstNonBlank? hkept)
      exact ⟨congrArg Prod.fst h, congrArg Prod.snd h⟩

end Tracker

end TaskWatch
