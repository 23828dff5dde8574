import TaskWatch.Proofs.Tracker.Confined
import TaskWatch.Proofs.Tracker.Unwatched

/-!
# What an operation on a call comes to

A render and a snapshot change the state of one call, which is made if there is none. What they make
of it is a `Deed`: it depends on the state they find, and on nothing else that other calls could
change (`CallOp.deed`). From the deed follows what becomes of the tracker: the cell of the call gets
its new state, its token may be cancelled, a watcher may start under the next token, and an eviction
may be planned (`Tracker.Performs`, `Prompt.performs`).
-/

namespace TaskWatch

/-- What the caller does with one call. -/
inductive CallOp where
  | render (call : ToolCall) (result : ToolResult)
  | snapshot (callId label : String) (lines : List String) (finished : Bool)

namespace CallOp

/-- The id of the call; none if it is blank. -/
def callId? : CallOp → Option String
  | render call result => Text.firstNonBlank? [call.id, result.toolCallId]
  | snapshot callId _ _ _ => Text.nonBlank? callId

def step : CallOp → TrackerStep
  | render call result => .render call result
  | snapshot callId label lines finished => .updateSnapshot callId label lines finished

end CallOp

/-- What an operation makes of the state of its call, and what follows from that. -/
structure Deed where
  /-- The new state, but for a new watch. -/
  cell : CallState
  /-- The token that is cancelled. -/
  cancelled : Option Token := none
  /-- The task of the new watch. -/
  watched : Option String := none
  /-- Whether an eviction is planned. -/
  planned : Bool := false

namespace Deed

/-- The new state. -/
def state (d : Deed) (token : Token) : CallState :=
  if d.watched.isSome then d.cell.watched token else d.cell

/-- The new watcher, if there is one. -/
def watchers (d : Deed) (i : Nat) (token : Token) : List Watcher :=
  d.watched.toList.map fun taskId => ⟨i, taskId, token, .starting⟩

/-- The call ends. -/
def ended (d : Deed) : Deed :=
  { d with
    cell := d.cell.ended
    cancelled := d.cell.token
    planned := !d.cell.watching && !d.cell.cleanupClaimed }

/-- A watch begins, if the task of the call is known and nothing forbids it. -/
def watch (d : Deed) (closed : Bool) : Deed :=
  { d with watched := if closed || d.cell.done || d.cell.watching then none else d.cell.taskId }

end Deed

/-- What an operation makes of a state. -/
def CallOp.deed (catalog : Catalog) (closed : Bool) (s : CallState) : CallOp → Deed
  | .render call result =>
    let d : Deed := { cell := s.absorb catalog call result }
    (if call.finished || result.isError then d.ended else d).watch closed
  | .snapshot _ label lines finished =>
    let d : Deed := { cell := (s.updateLabel label .external).2.replaceLines lines }
    if finished then d.ended else d

namespace CallOp

/-- What an operation shows, if it leaves its call in a state. -/
def shows (catalog : Catalog) (s? : Option CallState) : CallOp → Option CallView
  | render call result => some <| match s? with
    | some s => Tracker.viewOf catalog s call result
    | none => .pending
  | snapshot _ _ _ _ => none

variable (catalog : Catalog) (closed : Bool) (s : CallState)

/-- An operation keeps the token of the call, or cancels it. -/
theorem deed_tokens (o : CallOp) :
    ((o.deed catalog closed s).cell.token = s.token ∨ (o.deed catalog closed s).cell.token = none) ∧
      ((o.deed catalog closed s).cancelled = none ∨
        (o.deed catalog closed s).cancelled = s.token) := by
  cases o with
  | render call result =>
    have learnt := (CallState.Learns.absorb s catalog call result).token
    unfold deed Deed.watch
    dsimp only
    generalize s.absorb catalog call result = known at learnt ⊢
    split
    · exact ⟨.inr rfl, .inr learnt⟩
    · exact ⟨.inl learnt, .inl rfl⟩
  | snapshot callId label lines finished =>
    have learnt := ((CallState.Learns.updateLabel s label .external).trans
      (.replaceLines _ lines)).token
    unfold deed
    dsimp only
    split
    · exact ⟨.inr rfl, .inr learnt⟩
    · exact ⟨.inl learnt, .inl rfl⟩

end CallOp

namespace Tracker

variable {σ : Type}

/-- The cell of a call; the next one if there is none. -/
def cellFor (t : Tracker σ) (callId : String) : Nat := (t.cellOf? callId).getD t.cells.length

/-- The state of a call; a new one if there is none. -/
def stateFor (t : Tracker σ) (callId : String) : CallState :=
  ((t.cellOf? callId).bind (t.cells[·]?)).getD (.new callId t.config.progressCapacity)

/-- The entry of a call that is made. -/
def entryFor (t : Tracker σ) (callId : String) : List (String × Nat) :=
  if (t.cellOf? callId).isNone then [(callId, t.cellFor callId)] else []

section

variable [WatchSource σ]

/-- The tracker after an operation. -/
def does (t : Tracker σ) (o : CallOp) : Tracker σ := t.step o.step

/-- The view that an operation gives, if it gives one. -/
def view? (t : Tracker σ) : CallOp → Option CallView
  | .render call result => some (t.render call result).1
  | .snapshot _ _ _ _ => none

/-- An operation on a call is done, and comes to a deed. -/
structure Performs (t : Tracker σ) (callId : String) (d : Deed) (t' : Tracker σ) : Prop where
  frame : t' = { t with
    cells := t'.cells, calls := t'.calls, watchers := t'.watchers
    evictions := t'.evictions, source := t'.source }
  length : t'.cells.length = t.cells.length + (t.cellOf? callId).isNone.toNat
  cell : ∀ i : Nat, t'.cells[i]? =
    if i = t.cellFor callId then some (d.state t.tokens.next) else t.cells[i]?
  calls : t'.calls = t.calls ++ t.entryFor callId
  watchers : t'.watchers = t.watchers ++ d.watchers (t.cellFor callId) t.tokens.next
  evictions : t'.evictions =
    t.evictions ++ if d.planned then [t.evictionOf (t.cellFor callId)] else []
  issued : t'.tokens.issued = t.tokens.issued + d.watched.isSome.toNat
  cancelled : ∀ token, t'.tokens.isCancelled token =
    (d.cancelled == some token || t.tokens.isCancelled token)

end

theorem ensureCell_fst (t : Tracker σ) (callId : String) :
    (t.ensureCell callId).1 = t.cellFor callId := by
  rw [cellFor]
  cases hi : t.cellOf? callId with
  | some i => rw [ensureCell_of_some hi]; rfl
  | none => rw [ensureCell_of_none hi]; rfl

/-- Where there is a runtime, a watcher starts for a call whose task is known, unless the call is done
or watched already, or the tracker was shut down. -/
theorem startWatcher_eq [WatchSource σ] {t : Tracker σ} {i : Nat} {s : CallState}
    (hs : t.cells[i]? = some s) (hruntime : t.runtime = true) :
    t.startWatcher i = match if t.closed || s.done || s.watching then none else s.taskId with
      | none => t
      | some id => { t.withTokens t.tokens.issue with
          cells := t.cells.set i (s.watched t.tokens.next)
          watchers := t.watchers ++ [⟨i, id, t.tokens.next, .starting⟩] } := by
  unfold startWatcher CallState.beginWatch
  simp only [hs]
  cases t.closed with
  | true => rfl
  | false =>
    cases htask : s.taskId with
    | none => simp
    | some id =>
      by_cases hidle : (s.done || s.watching) = true
      · simp [hidle]
      · simp [hidle, hruntime, htask, CallState.watched, setCell, withTokens]

namespace Performs

variable [WatchSource σ] {t t' : Tracker σ} {callId : String} {d : Deed}

/-- The call is looked up, and made if there is none. -/
theorem ensureCell (kept : t.Kept) (callId : String) :
    Performs t callId { cell := t.stateFor callId } (t.ensureCell callId).2 := by
  cases hi : t.cellOf? callId with
  | some i =>
    obtain ⟨s, hs, -⟩ := kept.cellOf? hi
    have hstate : t.stateFor callId = s := by rw [stateFor, hi, Option.bind_some, hs]; rfl
    have hcell : t.cellFor callId = i := by rw [cellFor, hi]; rfl
    have hentry : t.entryFor callId = [] := by rw [entryFor, hi]; rfl
    rw [ensureCell_of_some hi, hstate]
    refine ⟨rfl, by rw [hi]; rfl, fun j => ?_, by rw [hentry, List.append_nil],
      (List.append_nil _).symm, (List.append_nil _).symm, rfl, fun _ => rfl⟩
    rw [hcell]
    by_cases e : j = i
    · rw [if_pos e, e]
      exact hs
    · rw [if_neg e]
  | none =>
    have hstate : t.stateFor callId = .new callId t.config.progressCapacity := by
      rw [stateFor, hi]; rfl
    have hcell : t.cellFor callId = t.cells.length := by rw [cellFor, hi]; rfl
    have hentry : t.entryFor callId = [(callId, t.cells.length)] := by rw [entryFor, hi, hcell]; rfl
    rw [ensureCell_of_none hi, hstate]
    refine ⟨rfl, by rw [hi, List.length_append]; rfl, fun j => ?_, by rw [hentry],
      (List.append_nil _).symm, (List.append_nil _).symm, rfl, fun _ => rfl⟩
    rw [hcell]
    by_cases e : j = t.cells.length
    · rw [if_pos e, e]
      exact List.getElem?_concat_length
    · rw [if_neg e, List.getElem?_append]
      split
      · rfl
      · next hge =>
        have hbeyond : 1 ≤ j - t.cells.length := by omega
        rw [List.getElem?_eq_none hbeyond, List.getElem?_eq_none (Nat.not_lt.1 hge)]

/-- What the cell of the call holds before a watch begins. -/
theorem found (h : Performs t callId d t') (hwatched : d.watched = none) :
    t'.cells[t.cellFor callId]? = some d.cell := by
  rw [h.cell, if_pos rfl, Deed.state, hwatched]
  rfl

/-- The cell of the call changes again. -/
theorem cell_set (h : Performs t callId d t') (s : CallState) (j : Nat) :
    (t'.cells.set (t.cellFor callId) s)[j]? =
      if j = t.cellFor callId then some s else t.cells[j]? := by
  by_cases e : j = t.cellFor callId
  · have hcell := h.cell (t.cellFor callId)
    rw [if_pos rfl] at hcell
    rw [if_pos e, e, List.getElem?_set_self (List.getElem?_eq_some_iff.1 hcell).1]
  · rw [if_neg e, List.getElem?_set_ne (Ne.symm e), h.cell, if_neg e]

theorem update (h : Performs t callId d t') (hwatched : d.watched = none)
    (change : CallState → CallState) :
    Performs t callId { d with cell := change d.cell }
      (t'.updateCell (t.cellFor callId) change) := by
  rw [updateCell_eq (h.found hwatched)]
  refine { h with frame := ?_, length := ?_, cell := fun j => ?_ }
  · rw [setCell, h.frame]
  · rw [setCell, List.length_set]
    exact h.length
  · rw [setCell, h.cell_set, Deed.state, hwatched]
    rfl

section

variable [HeedfulSource σ]

/-- The call ends. -/
theorem markDone {s : CallState} (h : Performs t callId { cell := s } t') :
    Performs t callId (Deed.ended { cell := s }) (t'.markDone (t.cellFor callId)) := by
  have hs := h.found rfl
  have hevictions : t'.evictions = t.evictions := h.evictions.trans (List.append_nil _)
  have htokens := tokens_markDone hs
  rw [markDone_eq hs] at htokens ⊢
  refine ⟨?_, ?_, h.cell_set s.ended, h.calls, h.watchers, ?_, ?_, fun token => ?_⟩
  · rw [h.frame]
    rfl
  · rw [List.length_set]
    exact h.length
  · have hplan : t'.evictionOf (t.cellFor callId) = t.evictionOf (t.cellFor callId) := by
      rw [h.frame]
      rfl
    rw [hevictions, hplan]
    show (if (!s.watching && !s.cleanupClaimed) then _ else _) = _
    unfold Deed.ended
    dsimp only
    split
    · rfl
    · exact (List.append_nil _).symm
  · rw [htokens, Tokens.issued_cancelAny]
    exact h.issued
  · rw [htokens, Tokens.isCancelled_cancelAny, h.cancelled]
    rfl

/-- A watch begins, unless something forbids it. -/
theorem startWatcher (h : Performs t callId d t') (hwatched : d.watched = none)
    (hruntime : t.runtime = true) :
    Performs t callId (d.watch t.closed) (t'.startWatcher (t.cellFor callId)) := by
  have hs := h.found hwatched
  have hclosed : t'.closed = t.closed := by rw [h.frame]
  have hruntime' : t'.runtime = true := by rw [h.frame]; exact hruntime
  have hissued : t'.tokens.issued = t.tokens.issued := by rw [h.issued, hwatched]; rfl
  rw [startWatcher_eq hs hruntime', hclosed, Deed.watch]
  cases (if t.closed || d.cell.done || d.cell.watching then none else d.cell.taskId) with
  | none =>
    have same : { d with watched := none } = d := by rw [← hwatched]
    rw [same]
    exact h
  | some id =>
    have hwatchers : t'.watchers = t.watchers := by
      rw [h.watchers, Deed.watchers, hwatched]
      exact List.append_nil _
    have htokens : (t'.withTokens t'.tokens.issue).tokens = t'.tokens.issue := tokens_withTokens t' _
    refine ⟨?_, ?_, ?_, h.calls, ?_, ?_, ?_, fun token => ?_⟩
    · rw [h.frame]
      rfl
    · rw [List.length_set]
      exact h.length
    · rw [Tokens.next, hissued]
      exact h.cell_set _
    · rw [hwatchers, Tokens.next, hissued]
      rfl
    · exact h.evictions
    · show (t'.withTokens t'.tokens.issue).tokens.issued = _
      rw [htokens, Tokens.issue, hissued]
      rfl
    · show (t'.withTokens t'.tokens.issue).tokens.isCancelled token = _
      rw [htokens]
      exact h.cancelled token

end

end Performs

section

variable [WatchSource σ] [HeedfulSource σ] {t : Tracker σ}

/-- An operation on a call comes to its deed. -/
theorem Prompt.performs (prompt : t.Prompt) (kept : t.Kept) {o : CallOp} {callId : String}
    (hid : o.callId? = some callId) :
    Performs t callId (o.deed t.catalog t.closed (t.stateFor callId)) (t.does o) := by
  have made := Performs.ensureCell kept callId
  have hcatalog : (t.ensureCell callId).2.catalog = t.catalog := by rw [ensureCell_frame]
  cases o with
  | render call result =>
    have hrender : t.does (.render call result) =
        (t.ensureCell callId).2.absorb (t.ensureCell callId).1 call result := by
      show (t.render call result).2 = _
      rw [t.render_eq hid, prompt.sweep]
    have learnt := made.update rfl (·.absorb t.catalog call result)
    rw [hrender, ensureCell_fst, Tracker.absorb, hcatalog, CallOp.deed]
    split
    · exact learnt.markDone.startWatcher rfl prompt.runtime
    · exact learnt.startWatcher rfl prompt.runtime
  | snapshot _ label lines finished =>
    have shown := made.update rfl fun s => (s.updateLabel label .external).2.replaceLines lines
    show Performs t callId _ (t.updateSnapshot _ label lines finished)
    rw [updateSnapshot, show Text.nonBlank? _ = some callId from hid, CallOp.deed]
    simp only [ensureCell_fst]
    split
    · exact shown.markDone
    · exact shown

omit [HeedfulSource σ] in
/-- An operation without a call does nothing. -/
theorem Prompt.does_of_none (prompt : t.Prompt) {o : CallOp} (hid : o.callId? = none) :
    t.does o = t := by
  cases o with
  | render call result => exact (t.render_of_none hid).trans prompt.sweep
  | snapshot callId label lines finished =>
    show t.updateSnapshot callId label lines finished = t
    rw [updateSnapshot, show Text.nonBlank? callId = none from hid]

omit [HeedfulSource σ] in
/-- The view is that of the state that the call is left in. -/
theorem render_fst {call : ToolCall} {result : ToolResult} {callId : String}
    (hid : Text.firstNonBlank? [call.id, result.toolCallId] = some callId) :
    (t.render call result).1 =
      match (t.render call result).2.cells[(t.sweep.ensureCell callId).1]? with
      | some s => viewOf (t.render call result).2.catalog s call result
      | none => .pending := by
  rw [t.render_eq hid]
  unfold render
  dsimp only
  rw [hid]
  dsimp only
  generalize (t.sweep.ensureCell callId).2.absorb (t.sweep.ensureCell callId).1 call result = u
  cases u.cells[(t.sweep.ensureCell callId).1]? <;> rfl

/-- What an operation shows follows from its deed. -/
theorem Prompt.view?_eq (prompt : t.Prompt) (kept : t.Kept) (o : CallOp) :
    t.view? o = o.shows t.catalog (o.callId?.map fun callId =>
      (o.deed t.catalog t.closed (t.stateFor callId)).cell) := by
  cases o with
  | snapshot => rfl
  | render call result =>
    show some (t.render call result).1 = _
    cases hid : (CallOp.render call result).callId? with
    | none =>
      rw [render, show Text.firstNonBlank? [call.id, result.toolCallId] = none from hid]
      rfl
    | some callId =>
      have performs := prompt.performs kept hid
      have hcell := performs.cell (t.cellFor callId)
      rw [if_pos rfl] at hcell
      have hcatalog : (t.does (.render call result)).catalog = t.catalog := by rw [performs.frame]
      rw [render_fst hid, prompt.sweep, ensureCell_fst]
      show some (match (t.does (.render call result)).cells[t.cellFor callId]? with
        | some s => viewOf (t.does (.render call result)).catalog s call result
        | none => .pending) = _
      rw [hcell, hcatalog]
      -- A new watch does not show.
      show some (viewOf t.catalog (Deed.state _ _) call result) = _
      unfold Deed.state
      split <;> rfl

end

end Tracker

end TaskWatch
