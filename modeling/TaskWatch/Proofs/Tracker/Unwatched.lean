import TaskWatch.Proofs.Tracker.Watches
import TaskWatch.Tracker.Session

/-!
# A call that has ended is not watched again

Once a cell is done, no watcher of it ever starts again, and one that is still about to open its
stream is refused (`Tracker.done_cell_stays_unwatched`). As long as the cell is what a render finds
under the id of its call, no render starts a watcher for the call either. A cell that was evicted is
not found any more: the next render of its call makes a new one, and that one may be watched
(`evicted_call_is_watched_again`).
-/

namespace TaskWatch

namespace Tracker

variable {σ : Type} [WatchSource σ]

/-- What the caller has done to a source: tokens were handed out or cancelled, and nothing else. -/
def OnlyTokens (source source' : σ) : Prop :=
  source' = source ∨ ∃ tokens, source' = WatchSource.withTokens source tokens

section

variable [LawfulSource σ]

theorem OnlyTokens.trans {a b c : σ} (h : OnlyTokens a b) (h' : OnlyTokens b c) :
    OnlyTokens a c := by
  obtain rfl | ⟨tokens', rfl⟩ := h'
  · exact h
  · obtain rfl | ⟨tokens, rfl⟩ := h
    · exact .inr ⟨tokens', rfl⟩
    · exact .inr ⟨tokens', LawfulSource.withTokens_withTokens _ _ _⟩

omit [LawfulSource σ] in
theorem Change.onlyTokens {t t' : Tracker σ} (h : Change none t t') :
    OnlyTokens t.source t'.source := by
  cases h with
  | learn | close | runtime => exact .inl rfl
  | create =>
    rw [ensureCell_frame]
    exact .inl rfl
  | markDone _ i =>
    cases hs : t.cells[i]? with
    | none =>
      rw [markDone_of_none hs]
      exact .inl rfl
    | some s =>
      rw [markDone_eq hs]
      exact .inr ⟨_, rfl⟩
  | cancelWatch _ i =>
    cases hs : t.cells[i]? with
    | none =>
      rw [cancelWatch_of_none hs]
      exact .inl rfl
    | some s =>
      rw [cancelWatch_eq hs]
      exact .inr ⟨_, rfl⟩
  | startWatcher _ i =>
    obtain e | ⟨s, id, -, -, -, -, -, ⟨-, e⟩ | ⟨-, e⟩⟩ := t.startWatcher_cases i
    · rw [e]
      exact .inl rfl
    · rw [e]
      exact .inr ⟨_, rfl⟩
    · rw [e]
      exact .inr ⟨_, rfl⟩

theorem Changes.onlyTokens {t t' : Tracker σ} (h : Changes none t t') :
    OnlyTokens t.source t'.source := by
  induction h with
  | refl => exact .inl rfl
  | tail _ hc ih => exact ih.trans hc.onlyTokens

/-- A render opens no stream. -/
theorem onlyTokens_render (t : Tracker σ) (call : ToolCall) (result : ToolResult) :
    OnlyTokens t.source (t.render call result).2.source := by
  have h := Changes.onlyTokens (t.render_changes call result)
  rwa [t.sweep_forgets.same.1] at h

end

/-! ## Every run -/

/-- What holds of a cell that was done when there were so many watchers. -/
structure Unwatched (t : Tracker σ) (i before : Nat) : Prop where
  done : t.DoneAt i
  /-- No watcher of it has started since. -/
  started : ∀ {w : Nat} {v}, t.watchers[w]? = some v → v.cell = i → w < before
  /-- A watcher of it that asks for its stream is refused. -/
  refused : ∀ {w : Nat} {v}, t.watchers[w]? = some v → v.cell = i → v.stage = .starting →
    ∃ e, (WatchSource.openWatch t.source v.taskId v.token).1 = .error e
  /-- A render that finds it under the id of its call starts no watcher. -/
  rendered : ∀ (call : ToolCall) (result : ToolResult) {callId : String},
    Text.firstNonBlank? [call.id, result.toolCallId] = some callId →
    t.sweep.cellOf? callId = some i → (t.render call result).2.watchers = t.watchers

/-- What holds of any render. -/
structure Renders (t : Tracker σ) (call : ToolCall) (result : ToolResult) : Prop where
  /-- It opens no stream. -/
  opened : OnlyTokens t.source (t.render call result).2.source
  /-- If the call has ended, it starts no watcher, even if the call is new. -/
  ended : (call.finished || result.isError) = true →
    (t.render call result).2.watchers = t.watchers

variable [HeedfulSource σ]

theorem Guarded.unwatched {t : Tracker σ} (h : t.Guarded) {i before : Nat} (hdone : t.DoneAt i)
    (hstarted : ∀ {w : Nat} {v}, t.watchers[w]? = some v → v.cell = i → w < before) :
    t.Unwatched i before where
  done := hdone
  started := hstarted
  refused {w v} hw hcell hstage := by
    obtain ⟨s, hs, hended⟩ := hdone
    have hnone := h.armed.ended hs hended
    obtain hheld | hc := h.armed.running v (List.mem_of_getElem? hw) (by rw [hstage]; nofun)
      (hcell ▸ hs)
    · rw [hnone] at hheld
      cases hheld
    · exact HeedfulSource.refuses t.source v.taskId v.token hc
  rendered call result callId hid hi := watchers_render h.kept hid (.inl ⟨i, hi, hdone⟩)

/-- Once a cell is done, it is never watched again: whatever happens, and however much time passes. A
render starts no watcher for the call as long as the cell is the current one of it. -/
theorem done_cell_stays_unwatched (config : TrackerConfig) (catalog : Catalog) (runtime : Bool)
    (source : σ) {run rest : List (Move σ)}
    (hheeded : (new config catalog runtime source).Heeded (run ++ rest)) :
    (∀ {i : Nat}, ((new config catalog runtime source).moves run).DoneAt i →
      ((new config catalog runtime source).moves (run ++ rest)).Unwatched i
        ((new config catalog runtime source).moves run).watchers.length) ∧
    ∀ call result, ((new config catalog runtime source).moves (run ++ rest)).Renders call result := by
  have guarded := (Guarded.new config catalog runtime source).moves hheeded
  obtain ⟨-, hrest⟩ := heeded_append.1 hheeded
  have watches := Watches.of_moves hrest
  rw [← moves_append] at watches
  refine ⟨fun {i} hdone => guarded.unwatched (watches.done hdone) fun hw hcell =>
    watches.lt_of_done (hcell ▸ hdone) hw,
    fun call result => ⟨onlyTokens_render _ call result, fun hended => ?_⟩⟩
  cases hid : Text.firstNonBlank? [call.id, result.toolCallId] with
  | none => rw [render_of_none _ hid, (sweep_forgets _).same.2.1]
  | some callId => exact watchers_render guarded.kept hid (.inr hended)

/-- A result that names the task of its call. -/
def naming : ToolResult := { metadata := "\x7b\"task_id\":\"t\"\x7d" }

/-- A tracker that has seen nothing yet, over a broker. -/
def blank : Tracker Broker := new {} {} true (.new 32)

/-- A call is rendered, and ends before its watcher has run. -/
def shortCall : List TrackerStep :=
  [.render { id := "a" } naming, .updateSnapshot "a" "" [] true]

/-- The watcher of a call that has ended is the last one. -/
theorem short_call_stays_unwatched :
    (blank.moves (shortCall.map .step ++ [.step (.render { id := "a" } naming)])).Unwatched 0 1 := by
  have hheeded := heeded_steps blank (shortCall ++ [.render { id := "a" } naming])
  rw [List.map_append] at hheeded
  have hdone : (blank.moves (shortCall.map .step)).DoneAt 0 :=
    doneAt_iff.2 (by decide +kernel)
  have hcount : (blank.moves (shortCall.map .step)).watchers.length = 1 := by decide +kernel
  have h := (done_cell_stays_unwatched {} {} true (Broker.new 32) hheeded).1 hdone
  rw [← hcount]
  exact h

end Tracker

/-- A call that was watched to its end, and the eviction of its cell. -/
def watchedCall : List LocalTracker.Step :=
  [.tracker (.render { id := "a" } Tracker.naming), .tracker (.poll 0),
    .publish "t" { kind := .completed }, .tracker (.poll 0)]

def eviction : List LocalTracker.Step :=
  [.tracker (.pollEviction 0), .tracker (.advance 120000), .tracker (.pollEviction 0)]

/-- After the cell of a call that has ended was evicted, a render of the call may start a watcher. -/
theorem evicted_call_is_watched_again :
    ¬∀ (run rest : List LocalTracker.Step) (call : ToolCall) (result : ToolResult)
      (callId : String) (i : Nat),
      let done := (LocalTracker.new {} {} true 32).run run
      let later := done.run rest
      done.tracker.cellOf? callId = some i → done.tracker.DoneAt i →
      Text.firstNonBlank? [call.id, result.toolCallId] = some callId →
      (later.tracker.render call result).2.watchers = later.tracker.watchers := by
  intro h
  have hsame := h watchedCall eviction { id := "a" } Tracker.naming "a" 0 (by decide +kernel)
    (Tracker.doneAt_iff.2 (by decide +kernel)) (by decide +kernel)
  revert hsame
  decide +kernel

end TaskWatch
