import TaskWatch.Proofs.Call.Effects
import TaskWatch.Proofs.Tracker.Proper

/-!
# How watchers start

A watcher that a render starts follows a task whose id needs no trimming, under a new token, which
its call holds; the call is not done (`Tracker.Starts`). This is so for every source and after every
run (`Proper.render_starts`).
-/

namespace TaskWatch

namespace CallState

theorem taskId_updateLabel (s : CallState) (candidate : String) (tier : LabelTier) :
    (s.updateLabel candidate tier).2.taskId = s.taskId := by
  unfold updateLabel
  split
  · rfl
  · split <;> rfl

theorem taskId_absorbLabel (s : CallState) (catalog : Catalog) (reading : CallReading)
    (call : ToolCall) (result : ToolResult) :
    (s.absorbLabel catalog reading call result).taskId = s.taskId := by
  unfold absorbLabel
  split
  · exact taskId_updateLabel s _ _
  · split
    · exact taskId_updateLabel s _ _
    · rfl

theorem taskId_ensureInitial (s : CallState) (lines : List String) :
    (s.ensureInitial lines).taskId = s.taskId := by
  have hseed : s.ensureInitial lines = s.edit (.seed lines) := rfl
  rw [hseed, edit_eq]

/-- A render binds the task that was found, unless one is bound. -/
theorem taskId_absorb (s : CallState) (catalog : Catalog) (call : ToolCall) (result : ToolResult) :
    (s.absorb catalog call result).taskId =
      s.taskId.or ((CallReading.ofCall call result).taskId.bind Text.nonBlank?) := by
  unfold absorb
  dsimp only
  rw [taskId_ensureInitial, taskId_absorbLabel, setSessionId_eq]
  cases (CallReading.ofCall call result).taskId with
  | none => rw [Option.bind_none, Option.or_none]
  | some id =>
    dsimp only
    rw [setTaskId_eq, Option.bind_some]

end CallState

namespace Tracker

variable {σ : Type} [WatchSource σ]

/-- A watcher is about to start, for a call in a state. -/
structure Starts (t : Tracker σ) (w : Nat) (v : Watcher) (s : CallState) : Prop where
  watcher : t.watchers[w]? = some v
  stage : v.stage = .starting
  cell : t.cells[v.cell]? = some s
  token : s.token = some v.token
  uncancelled : t.tokens.isCancelled v.token = false
  task : s.taskId = some v.taskId
  id : Text.nonBlank? v.taskId = some v.taskId
  done : s.done = false

/-- What a call says is taken in before its watcher may start. -/
theorem absorbed (t : Tracker σ) (i : Nat) (call : ToolCall) (result : ToolResult) :
    ∃ u : Tracker σ, Changes none t u ∧ u.watchers = t.watchers ∧
      t.absorb i call result = u.startWatcher i := by
  have learnt : Changes none t (t.updateCell i (·.absorb t.catalog call result)) :=
    t.updateCell_changes none i fun s => .absorb s t.catalog call result
  unfold Tracker.absorb
  dsimp only
  split
  · exact ⟨_, learnt.tail (.markDone _ i), watchers_markDone _ i, rfl⟩
  · exact ⟨_, learnt, rfl, rfl⟩

/-- A render comes to nothing, or to what it takes to start a watcher. -/
theorem rendered (t : Tracker σ) (call : ToolCall) (result : ToolResult) :
    ∃ u : Tracker σ, Changes none t.sweep u ∧ u.watchers = t.watchers ∧
      ((t.render call result).2 = u ∨ ∃ i, (t.render call result).2 = u.startWatcher i) := by
  have hwatchers : t.sweep.watchers = t.watchers := t.sweep_forgets.same.2.1
  cases hid : Text.firstNonBlank? [call.id, result.toolCallId] with
  | none => exact ⟨t.sweep, .refl, hwatchers, .inl (t.render_of_none hid)⟩
  | some callId =>
    obtain ⟨u, hc, hsame, habsorbed⟩ :=
      (t.sweep.ensureCell callId).2.absorbed (t.sweep.ensureCell callId).1 call result
    have hmade : (t.sweep.ensureCell callId).2.watchers = t.sweep.watchers := by
      rw [ensureCell_frame]
    exact ⟨u, (t.sweep.ensureCell_changes callId).trans hc, hsame.trans (hmade.trans hwatchers),
      .inr ⟨_, (t.render_eq hid).trans habsorbed⟩⟩

variable [OwningSource σ]

/-- What is known of a watcher that starts. -/
theorem Proper.starts {u : Tracker σ} (h : u.Proper) {i : Nat} {v : Watcher}
    (hv : (u.startWatcher i).watchers = u.watchers ++ [v]) :
    ∃ s, (u.startWatcher i).Starts u.watchers.length v s := by
  have hone : u.watchers ≠ u.watchers ++ [v] := fun e => by
    have hlength := congrArg List.length e
    rw [List.length_append, List.length_singleton] at hlength
    omega
  have hwatcher : (u.startWatcher i).watchers[u.watchers.length]? = some v := by
    rw [hv]
    exact List.getElem?_concat_length
  obtain e | ⟨s, id, -, hs, htask, hdone, -, ⟨-, e⟩ | ⟨-, e⟩⟩ := u.startWatcher_cases i
  · rw [e] at hv
    exact absurd hv hone
  · rw [e] at hv hwatcher ⊢
    obtain rfl := List.singleton_inj.1 (List.append_cancel_left hv)
    have hlt := (List.getElem?_eq_some_iff.1 hs).1
    refine ⟨s.watched u.tokens.next, hwatcher, rfl, List.getElem?_set_self hlt, rfl, ?_, htask,
      h.trimmed hs htask, hdone⟩
    show (u.withTokens u.tokens.issue).tokens.isCancelled u.tokens.next = false
    rw [tokens_withTokens, Tokens.isCancelled_issue]
    exact eq_false_of_ne_true fun hc => Nat.lt_irrefl _ (h.owned.cancelled hc)
  · rw [e] at hv
    exact absurd hv hone

/-- What is known of a watcher that a render starts. -/
theorem Proper.render_starts {t : Tracker σ} (h : t.Proper) {call : ToolCall} {result : ToolResult}
    {v : Watcher} (hv : (t.render call result).2.watchers = t.watchers ++ [v]) :
    ∃ s, (t.render call result).2.Starts t.watchers.length v s := by
  obtain ⟨u, hc, hsame, hu | ⟨i, hu⟩⟩ := t.rendered call result
  · rw [hu, hsame] at hv
    have hlength := congrArg List.length hv
    rw [List.length_append, List.length_singleton] at hlength
    omega
  · rw [hu, ← hsame] at hv ⊢
    exact ((h.forgets t.sweep_forgets).changes hc).starts hv

end Tracker

end TaskWatch
