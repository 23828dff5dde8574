import TaskWatch.Call.Reading
import TaskWatch.Proofs.Text.NonBlank

/-!
# The watch of a call and its end

Most operations on a call only learn something about it: they fill in ids, the label and lines, and
leave the watch and the end of the call alone (`CallState.Learns`). The others are the four that
begin, finish or cancel the watch or end the call; their effect is said field by field.

* `Learns.absorb`, `Learns.applyEvent`: what a render and a watch event leave alone;
* `beginWatch_eq_some`, `finishWatch_eq`, `markDone_eq`: the other operations.
-/

namespace TaskWatch.CallState

/-- `s'` is `s` after something was learnt about the call. Ids, once known, stay, and the id of a task
that is learnt needs no trimming. -/
structure Learns (s s' : CallState) : Prop where
  callId : s'.callId = s.callId
  capacity : s'.capacity = s.capacity
  watching : s'.watching = s.watching
  done : s'.done = s.done
  token : s'.token = s.token
  cleanupClaimed : s'.cleanupClaimed = s.cleanupClaimed
  taskId : ∀ id, s.taskId = some id → s'.taskId = some id
  sessionId : ∀ id, s.sessionId = some id → s'.sessionId = some id
  trimmed : ∀ id, s'.taskId = some id → s.taskId = some id ∨ Text.nonBlank? id = some id

namespace Learns

variable {s s' s'' : CallState}

theorem refl (s : CallState) : Learns s s :=
  ⟨rfl, rfl, rfl, rfl, rfl, rfl, fun _ h => h, fun _ h => h, fun _ h => .inl h⟩

theorem trans (h : Learns s s') (h' : Learns s' s'') : Learns s s'' where
  callId := h'.callId.trans h.callId
  capacity := h'.capacity.trans h.capacity
  watching := h'.watching.trans h.watching
  done := h'.done.trans h.done
  token := h'.token.trans h.token
  cleanupClaimed := h'.cleanupClaimed.trans h.cleanupClaimed
  taskId id e := h'.taskId id (h.taskId id e)
  sessionId id e := h'.sessionId id (h.sessionId id e)
  trimmed id e := by
    obtain e | e := h'.trimmed id e
    · exact h.trimmed id e
    · exact .inr e

theorem disposable (h : Learns s s') : s'.disposable = s.disposable := by
  rw [CallState.disposable, h.done, h.watching, CallState.disposable]

/-! ## Ids and label -/

theorem setTaskId (s : CallState) (id : String) : Learns s (s.setTaskId id).2 := by
  unfold CallState.setTaskId
  split
  · next id hid hnone =>
    refine ⟨rfl, rfl, rfl, rfl, rfl, rfl, fun _ h => (by simp [hnone] at h), fun _ h => h,
      fun _ h => .inr ?_⟩
    exact Option.some.inj h ▸ Text.nonBlank?_of_eq_some hid
  · exact refl s

theorem setSessionId (s : CallState) (id : String) : Learns s (s.setSessionId id) := by
  unfold CallState.setSessionId
  split
  · next hnone => exact ⟨rfl, rfl, rfl, rfl, rfl, rfl, fun _ h => h, fun _ h => (by simp [hnone] at h),
      fun _ h => .inl h⟩
  · exact refl s

theorem updateLabel (s : CallState) (candidate : String) (tier : LabelTier) :
    Learns s (s.updateLabel candidate tier).2 := by
  unfold CallState.updateLabel
  split
  · exact refl s
  · split
    · exact ⟨rfl, rfl, rfl, rfl, rfl, rfl, fun _ h => h, fun _ h => h, fun _ h => .inl h⟩
    · exact refl s

/-! ## Lines -/

theorem replaceLines (s : CallState) (lines : List String) : Learns s (s.replaceLines lines) := by
  unfold CallState.replaceLines
  dsimp only
  split
  · exact refl s
  · exact ⟨rfl, rfl, rfl, rfl, rfl, rfl, fun _ h => h, fun _ h => h, fun _ h => .inl h⟩

theorem ensureInitial (s : CallState) (lines : List String) : Learns s (s.ensureInitial lines) := by
  unfold CallState.ensureInitial
  split
  · exact replaceLines s lines
  · exact refl s

theorem appendLine (s : CallState) (line : String) : Learns s (s.appendLine line).2 := by
  unfold CallState.appendLine
  split
  · exact refl s
  · split
    · exact refl s
    · exact ⟨rfl, rfl, rfl, rfl, rfl, rfl, fun _ h => h, fun _ h => h, fun _ h => .inl h⟩

/-! ## Renders, snapshots and events -/

theorem absorbLabel (s : CallState) (catalog : Catalog) (reading : CallReading) (call : ToolCall)
    (result : ToolResult) : Learns s (s.absorbLabel catalog reading call result) := by
  unfold CallState.absorbLabel
  split
  · exact updateLabel s _ _
  · split
    · exact updateLabel s _ _
    · exact refl s

theorem absorb (s : CallState) (catalog : Catalog) (call : ToolCall) (result : ToolResult) :
    Learns s (s.absorb catalog call result) := by
  unfold CallState.absorb
  refine trans ?_ (ensureInitial _ _)
  refine trans ?_ (absorbLabel _ _ _ _ _)
  refine trans ?_ (setSessionId _ _)
  split
  · exact setTaskId s _
  · exact refl s

theorem updateFromTask (s : CallState) (catalog : Catalog) (task : Task) :
    Learns s (s.updateFromTask catalog task) := by
  unfold CallState.updateFromTask
  generalize Text.firstNonBlank? [task.commandName, task.toolName] = name
  generalize (Metadata.labelIn? Metadata.Parser.decode task.metadata {}).1 = label
  cases name with
  | none =>
    cases label with
    | none => exact refl s
    | some label => exact updateLabel s label .metadata
  | some name =>
    have named := updateLabel s (catalog.labelFor name) .fallback
    cases label with
    | none => exact named
    | some label => exact named.trans (updateLabel _ label .metadata)

theorem updateFromEvent (s : CallState) (catalog : Catalog) (event : Event) :
    Learns s (s.updateFromEvent catalog event) := by
  unfold CallState.updateFromEvent
  split
  · exact updateFromTask s catalog _
  · exact refl s

theorem applyEvent (s : CallState) (catalog : Catalog) (event : Event) :
    Learns s (s.applyEvent catalog event).2 := by
  have updated := updateFromEvent s catalog event
  unfold CallState.applyEvent
  cases event.kind with
  | snapshot =>
    dsimp only
    split
    · exact updated.trans (replaceLines _ _)
    · exact updated
  | progress =>
    dsimp only
    split
    · exact updated.trans (appendLine _ _)
    · exact updated
  | other name =>
    dsimp only
    split
    · exact updated.trans (appendLine _ _)
    · exact updated
  | completed =>
    dsimp only
    split
    · exact (updated.trans (appendLine _ _)).trans (appendLine _ _)
    · exact updated.trans (appendLine _ _)
  | failed => exact updated.trans (appendLine _ _)
  | deleted => exact appendLine s _

end Learns

/-- An event ends its watch exactly when it is terminal. -/
theorem applyEvent_terminal (s : CallState) (catalog : Catalog) (event : Event) :
    (s.applyEvent catalog event).1 = event.isTerminal := by
  unfold applyEvent Event.isTerminal
  cases event.kind with
  | snapshot | progress | other name => dsimp only; split <;> rfl
  | completed | failed | deleted => rfl

/-- A line that is added changes the lines and nothing else. -/
theorem appendLine_eq (s : CallState) (line : String) :
    (s.appendLine line).2 = { s with lines := (s.appendLine line).2.lines } := by
  unfold appendLine
  split
  · rfl
  · split <;> rfl

/-! ## The watch -/

/-- The call with a watch running under a token. -/
def watched (s : CallState) (token : Token) : CallState :=
  { s with token := some token, watching := true }

/-- The call once its watch has finished. -/
def unwatched (s : CallState) : CallState :=
  { s with watching := false, token := none, cleanupClaimed := s.cleanupClaimed || s.done }

/-- The call once it has ended. -/
def ended (s : CallState) : CallState :=
  { s with done := true, token := none, cleanupClaimed := s.cleanupClaimed || !s.watching }

/-- The call once its watch was cancelled. -/
def tokenless (s : CallState) : CallState := { s with token := none }

/-- What may become of a call at once, when the next token is `next`. -/
inductive Becomes (next : Token) (s : CallState) : CallState → Prop where
  | learns {s' : CallState} (h : s.Learns s') : Becomes next s s'
  | watched : Becomes next s (s.watched next)
  | ended : Becomes next s s.ended
  | unwatched : Becomes next s s.unwatched
  | tokenless {s' : CallState} (h : s.Learns s') : Becomes next s s'.tokenless

/-- The same call, later: ids stay, what is done stays done, and no watch of it starts. -/
structure Precedes (s s' : CallState) : Prop where
  callId : s'.callId = s.callId
  capacity : s'.capacity = s.capacity
  taskId : ∀ id, s.taskId = some id → s'.taskId = some id
  sessionId : ∀ id, s.sessionId = some id → s'.sessionId = some id
  done : s.done = true → s'.done = true
  watching : s.done = true → s.watching = false → s'.watching = false

namespace Precedes

variable {s s' s'' : CallState}

theorem refl (s : CallState) : Precedes s s :=
  ⟨rfl, rfl, fun _ h => h, fun _ h => h, id, fun _ h => h⟩

theorem trans (h : Precedes s s') (h' : Precedes s' s'') : Precedes s s'' where
  callId := h'.callId.trans h.callId
  capacity := h'.capacity.trans h.capacity
  taskId id e := h'.taskId id (h.taskId id e)
  sessionId id e := h'.sessionId id (h.sessionId id e)
  done e := h'.done (h.done e)
  watching e e' := h'.watching (h.done e) (h.watching e e')

theorem disposable (h : Precedes s s') (hd : s.disposable = true) : s'.disposable = true := by
  simp only [CallState.disposable, Bool.and_eq_true, Bool.not_eq_true'] at hd ⊢
  exact ⟨h.done hd.1, h.watching hd.1 hd.2⟩

theorem of_learns (h : s.Learns s') : Precedes s s' :=
  ⟨h.callId, h.capacity, h.taskId, h.sessionId, fun e => h.done.trans e,
    fun _ e => h.watching.trans e⟩

theorem ended (s : CallState) : Precedes s s.ended :=
  ⟨rfl, rfl, fun _ h => h, fun _ h => h, fun _ => rfl, fun _ h => h⟩

theorem unwatched (s : CallState) : Precedes s s.unwatched :=
  ⟨rfl, rfl, fun _ h => h, fun _ h => h, id, fun _ _ => rfl⟩

theorem tokenless (s : CallState) : Precedes s s.tokenless :=
  ⟨rfl, rfl, fun _ h => h, fun _ h => h, id, fun _ h => h⟩

theorem watched (token : Token) (h : s.done = false) : Precedes s (s.watched token) :=
  ⟨rfl, rfl, fun _ h => h, fun _ h => h, id, fun e => absurd (h.symm.trans e) (by decide)⟩

end Precedes

theorem disposable_ended (s : CallState) : s.ended.disposable = !s.watching := by
  simp [ended, disposable]

theorem disposable_unwatched (s : CallState) : s.unwatched.disposable = s.done := by
  simp [unwatched, disposable]

/-- A watch begins only for a call with a task that is neither done nor watched. -/
theorem beginWatch_eq_some {s s' : CallState} {tokens tokens' : Tokens} {watch : String × Token} :
    s.beginWatch tokens = (some watch, s', tokens') ↔
      s.taskId = some watch.1 ∧ s.done = false ∧ s.watching = false ∧ watch.2 = tokens.next ∧
        s' = s.watched tokens.next ∧ tokens' = tokens.issue := by
  obtain ⟨id, token⟩ := watch
  unfold beginWatch watched
  cases s.taskId <;> cases s.done <;> cases s.watching <;> simp [eq_comm, and_assoc]

theorem finishWatch_eq (s : CallState) :
    s.finishWatch = (s.done && !s.cleanupClaimed, s.unwatched) := by
  unfold finishWatch claimCleanup disposable unwatched
  cases s.done <;> cases s.cleanupClaimed <;> rfl

theorem markDone_eq (s : CallState) (tokens : Tokens) :
    s.markDone tokens =
      (!s.watching && !s.cleanupClaimed, s.ended, tokens.cancelAny s.token) := by
  unfold markDone claimCleanup disposable ended
  cases s.watching <;> cases s.cleanupClaimed <;> rfl

/-- A watch that ends as soon as it began, with no more than a line, leaves no trace but the line. -/
theorem finishWatch_appendLine {s : CallState} (hdone : s.done = false)
    (hwatching : s.watching = false) (token : Token) (line : String) :
    ((s.watched token).appendLine line).2.finishWatch =
      (false, (s.appendLine line).2.tokenless) := by
  have hlines : ((s.watched token).appendLine line).2.lines = (s.appendLine line).2.lines := by
    unfold appendLine keepLast watched
    split
    · rfl
    · dsimp only
      split <;> rfl
  rw [appendLine_eq, finishWatch_eq, appendLine_eq s, hlines]
  simp [watched, unwatched, tokenless, hdone, hwatching]

end TaskWatch.CallState
