import TaskWatch.Proofs.Call.Again

/-!
# A call that was told everything

A call and its result say the same whenever they are read: ids that are bound once, one label, and
lines that are taken as long as there are none. So once a call has taken them in, they say nothing
new (`CallState.Told`), and this stays so while the watch of the call begins, ends or is cancelled
and while lines are added.

* `told_absorb`, `Told.absorb`: what was taken in once is taken in for good;
* `Told.ended`, `Told.watched`, `Told.appendLine`: nothing that a render does after it can undo this.
-/

namespace TaskWatch

/-- The label that a reading offers: the one that was found, or else the name of the tool. -/
def CallReading.offer? (reading : CallReading) (catalog : Catalog) (call : ToolCall)
    (result : ToolResult) : Option Offer :=
  match reading.label with
  | some label => some ⟨label, .metadata⟩
  | none => (Text.firstNonBlank? [result.name, call.name]).map fun name =>
    ⟨catalog.labelFor name, .fallback⟩

namespace CallState

/-- A call and its result say nothing that is new. -/
structure Told (s : CallState) (catalog : Catalog) (call : ToolCall) (result : ToolResult) :
    Prop where
  taskId : s.taskId.or ((CallReading.ofCall call result).taskId.bind Text.nonBlank?) = s.taskId
  sessionId : s.sessionId.or (Text.nonBlank? call.sessionId) = s.sessionId
  label : ∀ o label, (CallReading.ofCall call result).offer? catalog call result = some o →
    Text.nonBlank? o.candidate = some label → s.accepts label o.tier = false
  lines : s.lines = [] → Metadata.normalizeLines (CallReading.ofCall call result).lines s.capacity = []

variable {s : CallState} {catalog : Catalog} {call : ToolCall} {result : ToolResult}

/-! ## Labels and lines -/

/-- Lines that were offered are not taken again. -/
theorem normalizeLines_of_ensureInitial (s : CallState) (lines : List String)
    (h : (s.ensureInitial lines).lines = []) : Metadata.normalizeLines lines s.capacity = [] := by
  unfold ensureInitial replaceLines at h
  dsimp only at h
  split at h
  · split at h
    · next hempty => exact List.isEmpty_iff.1 hempty
    · exact h
  · next hlines => exact absurd (List.isEmpty_iff.2 h) hlines

/-- A line is added alike whether there is a token or not. -/
theorem appendLine_tokenless (s : CallState) (line : String) :
    (s.tokenless.appendLine line).2 = (s.appendLine line).2.tokenless := by
  have hsame : s.tokenless.lines = s.lines := rfl
  have hlines : (s.tokenless.appendLine line).2.lines = (s.appendLine line).2.lines :=
    lines_edit_congr hsame rfl (.append line)
  rw [appendLine_eq, hlines, appendLine_eq s]
  rfl

/-! ## What was taken in -/

theorem absorbLabel_eq (s : CallState) (catalog : Catalog) (reading : CallReading) (call : ToolCall)
    (result : ToolResult) : s.absorbLabel catalog reading call result =
      (reading.offer? catalog call result).elim s s.offer := by
  unfold absorbLabel CallReading.offer?
  cases reading.label with
  | some label => rfl
  | none => cases Text.firstNonBlank? [result.name, call.name] <;> rfl

/-- A call is bound to its task and its session, offered its label and then its lines. -/
theorem absorb_eq (s : CallState) (catalog : Catalog) (call : ToolCall) (result : ToolResult) :
    s.absorb catalog call result =
      let reading := CallReading.ofCall call result
      let placed := { s with
        taskId := s.taskId.or (reading.taskId.bind Text.nonBlank?)
        sessionId := s.sessionId.or (Text.nonBlank? call.sessionId) }
      ((reading.offer? catalog call result).elim placed placed.offer).ensureInitial reading.lines := by
  unfold absorb
  dsimp only
  rw [absorbLabel_eq]
  generalize CallReading.ofCall call result = reading
  cases reading.taskId with
  | none =>
    dsimp only [Option.bind_none]
    rw [setSessionId_eq, Option.or_none]
  | some id =>
    dsimp only [Option.bind_some]
    rw [setTaskId_eq, setSessionId_eq]

/-- Once a call has taken them in, a call and its result say nothing new. -/
theorem told_absorb (s : CallState) (catalog : Catalog) (call : ToolCall) (result : ToolResult) :
    (s.absorb catalog call result).Told catalog call result := by
  rw [absorb_eq]
  generalize hreading : CallReading.ofCall call result = reading
  dsimp only
  generalize hplaced : ({ s with
    taskId := s.taskId.or (reading.taskId.bind Text.nonBlank?)
    sessionId := s.sessionId.or (Text.nonBlank? call.sessionId) } : CallState) = placed
  have seeded := edit_eq ((reading.offer? catalog call result).elim placed placed.offer)
    (.seed reading.lines)
  have offered : ∀ o? : Option Offer, o?.elim placed placed.offer = { placed with
      label := (o?.elim placed placed.offer).label, tier := (o?.elim placed placed.offer).tier } := by
    rintro (_ | o)
    · rfl
    · exact offer_eq placed o
  constructor
  · rw [hreading]
    show (edit _ (.seed reading.lines)).taskId.or _ = (edit _ (.seed reading.lines)).taskId
    rw [seeded, offered, ← hplaced]
    dsimp only
    rw [Option.or_assoc, Option.or_self]
  · show (edit _ (.seed reading.lines)).sessionId.or _ = (edit _ (.seed reading.lines)).sessionId
    rw [seeded, offered, ← hplaced]
    dsimp only
    rw [Option.or_assoc, Option.or_self]
  · rintro o label ho hlabel
    rw [hreading] at ho
    rw [ho]
    show (edit (placed.offer o) (.seed reading.lines)).accepts label o.tier = false
    rw [edit_eq]
    exact refuses_offer placed o label hlabel
  · intro hempty
    have hcapacity : (ensureInitial ((reading.offer? catalog call result).elim placed placed.offer)
        reading.lines).capacity =
        ((reading.offer? catalog call result).elim placed placed.offer).capacity :=
      (Learns.ensureInitial _ _).capacity
    rw [hreading, hcapacity]
    exact normalizeLines_of_ensureInitial _ _ hempty

namespace Told

/-- What says nothing new changes nothing. -/
theorem absorb (h : s.Told catalog call result) : s.absorb catalog call result = s := by
  rw [absorb_eq]
  dsimp only
  rw [h.taskId, h.sessionId]
  have offered : ((CallReading.ofCall call result).offer? catalog call result).elim s s.offer = s := by
    cases ho : (CallReading.ofCall call result).offer? catalog call result with
    | none => rfl
    | some o =>
      have hrefuses : s.Refuses o := fun label => h.label o label ho
      exact hrefuses.offer_eq
  show ensureInitial (((CallReading.ofCall call result).offer? catalog call result).elim s s.offer) _ = s
  rw [offered, ensureInitial]
  split
  · next hempty =>
    rw [replaceLines, h.lines (List.isEmpty_iff.1 hempty)]
    rfl
  · rfl

theorem ended (h : s.Told catalog call result) : s.ended.Told catalog call result :=
  ⟨h.taskId, h.sessionId, h.label, h.lines⟩

theorem watched (h : s.Told catalog call result) (token : Token) :
    (s.watched token).Told catalog call result :=
  ⟨h.taskId, h.sessionId, h.label, h.lines⟩

theorem tokenless (h : s.Told catalog call result) : s.tokenless.Told catalog call result :=
  ⟨h.taskId, h.sessionId, h.label, h.lines⟩

/-- A line that is added leaves no room for first lines. -/
theorem appendLine (h : s.Told catalog call result) (hcapacity : 1 ≤ s.capacity) (line : String) :
    (s.appendLine line).2.Told catalog call result := by
  have hlines : (s.appendLine line).2.lines = [] → s.lines = [] := by
    unfold CallState.appendLine
    split
    · exact id
    · split
      · exact id
      · intro hempty
        have hlength := congrArg List.length hempty
        simp only [keepLast, List.length_drop, List.length_append, List.length_singleton,
          List.length_nil] at hlength
        omega
  rw [appendLine_eq]
  exact ⟨h.taskId, h.sessionId, h.label, fun hempty => h.lines (hlines hempty)⟩

end Told

end CallState

end TaskWatch
