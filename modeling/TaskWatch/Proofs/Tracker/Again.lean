import TaskWatch.Proofs.Call.Told
import TaskWatch.Proofs.Tracker.Deeds
import TaskWatch.Proofs.Tracker.Evictions

/-!
# Rendering again

A call that is rendered twice in a row shows the same both times, and the second render leaves the
tracker as it is (`Tracker.render_again`). Each part of a render undoes its own occasion: evictions
that were due have run and those that are planned are due later, what the call and its result say is
known, a call that has ended is marked as ended, and a call that needs a watcher has one. Where there
is no runtime to start it on, the call has the line that says so; then each render takes a token for
the watcher that it cannot start, and this token is all that the second render leaves behind
(`Tracker.Unmoved`).
-/

namespace TaskWatch.Tracker

variable {σ : Type}

/-! ## Sweeping -/

/-- No deferred eviction is due. -/
def Swept (t : Tracker σ) : Prop :=
  ∀ e ∈ t.evictions, e.deferred = true → e.ran = false → ∀ d, e.due = some d → t.now < d

theorem Swept.sweep {t : Tracker σ} (h : t.Swept) : t.sweep = t := by
  have idle : ∀ k, t.sweepEviction k = t := fun k => by
    unfold sweepEviction
    split
    · rfl
    · next e hk =>
      refine if_neg fun hdue => ?_
      simp only [Bool.and_eq_true, Bool.not_eq_true', Option.any_eq_true, decide_eq_true_eq] at hdue
      obtain ⟨⟨hdeferred, hran⟩, d, hd, hpast⟩ := hdue
      exact Nat.not_le.2 (h e (List.mem_of_getElem? hk) hdeferred hran d hd) hpast
  unfold Tracker.sweep
  generalize List.range t.evictions.length = ks
  induction ks with
  | nil => rfl
  | cons k ks ih => rw [List.foldl_cons, idle, ih]

/-- Sweeping leaves nothing that is due. -/
theorem swept_sweep {t : Tracker σ} (kept : t.Kept) : t.sweep.Swept := by
  intro e he hdeferred hran d hd
  have expires := Expires.of_forgets t.sweep_forgets
  obtain ⟨k, hk⟩ := List.mem_iff_getElem?.1 he
  have hlt : k < t.evictions.length := expires.length ▸ (List.getElem?_eq_some_iff.1 hk).1
  have hk₀ := List.getElem?_eq_getElem hlt
  obtain ⟨e₁, hk₁, hc⟩ := expires.eviction hk₀
  obtain rfl : e₁ = e := Option.some.inj (hk₁.symm.trans hk)
  rw [hc.deferred] at hdeferred
  -- A deferred eviction has its due time from the start.
  have hdue : t.evictions[k].due = some d := by
    cases hdue : t.evictions[k].due with
    | some d' => rw [← hd, hc.due hdue]
    | none => exact absurd ((hc.start hdue hd).1.symm.trans hdeferred) (by decide)
  refine Nat.not_le.1 fun hpast => ?_
  rw [expires.now] at hpast
  obtain ⟨k', e', hk', hcell, hran'⟩ := forgotten_sweep hk₀ hdeferred hdue hpast
  have hsame := (kept.forgets t.sweep_forgets).unique hk' hk (hcell.trans hc.cell.symm)
  rw [hsame, hk] at hk'
  obtain rfl := Option.some.inj hk'
  exact absurd (hran.symm.trans hran') (by decide)

/-- Evictions that are planned are not due at once, if there is a delay. -/
theorem Swept.ages {t t' : Tracker σ} (h : t.Swept) (ha : Ages t t')
    (hdelay : 0 < t.config.cleanupDelay.millis) : t'.Swept := by
  intro e he hdeferred hran d hd
  obtain ⟨new, hplanned, hnew⟩ := ha.planned
  rw [hplanned] at he
  rw [ha.now]
  obtain he | he := List.mem_append.1 he
  · exact h e he hdeferred hran d hd
  · obtain ⟨-, ⟨-, hdue⟩ | ⟨hbeside, -⟩⟩ := hnew e he
    · rw [hdue, Option.some.injEq, cleanupTime] at hd
      omega
    · exact absurd (hdeferred.symm.trans hbeside) (by decide)

/-! ## What a call and its result say -/

/-- A call and its result say nothing new to a cell. -/
def ToldAt (t : Tracker σ) (i : Nat) (call : ToolCall) (result : ToolResult) : Prop :=
  ∃ s, t.cells[i]? = some s ∧ 1 ≤ s.capacity ∧ s.Told t.catalog call result

namespace ToldAt

variable {t : Tracker σ} {i : Nat} {call : ToolCall} {result : ToolResult}

theorem of_absorb {s : CallState} (hs : t.cells[i]? = some s) (hcapacity : 1 ≤ s.capacity)
    (call : ToolCall) (result : ToolResult) :
    (t.updateCell i (·.absorb t.catalog call result)).ToldAt i call result := by
  rw [updateCell_eq hs]
  refine ⟨s.absorb t.catalog call result,
    List.getElem?_set_self (List.getElem?_eq_some_iff.1 hs).1, ?_, s.told_absorb _ call result⟩
  rw [(CallState.Learns.absorb s t.catalog call result).capacity]
  exact hcapacity

theorem updateCell (h : t.ToldAt i call result) :
    t.updateCell i (·.absorb t.catalog call result) = t := by
  obtain ⟨s, hs, -, told⟩ := h
  rw [updateCell_eq hs, told.absorb, setCell_self hs]

variable [WatchSource σ]

theorem markDone (h : t.ToldAt i call result) : (t.markDone i).ToldAt i call result := by
  obtain ⟨s, hs, hcapacity, told⟩ := h
  rw [markDone_eq hs]
  exact ⟨s.ended, List.getElem?_set_self (List.getElem?_eq_some_iff.1 hs).1, hcapacity, told.ended⟩

theorem startWatcher (h : t.ToldAt i call result) : (t.startWatcher i).ToldAt i call result := by
  obtain ⟨s, hs, hcapacity, told⟩ := h
  have hlt := (List.getElem?_eq_some_iff.1 hs).1
  obtain same | ⟨s', id, -, hs', -, -, -, ⟨-, started⟩ | ⟨-, failed⟩⟩ := t.startWatcher_cases i
  · rw [same]
    exact ⟨s, hs, hcapacity, told⟩
  · obtain rfl : s = s' := Option.some.inj (hs.symm.trans hs')
    rw [started]
    exact ⟨_, List.getElem?_set_self hlt, hcapacity, told.watched _⟩
  · obtain rfl : s = s' := Option.some.inj (hs.symm.trans hs')
    rw [failed]
    refine ⟨_, List.getElem?_set_self hlt, ?_, (told.appendLine hcapacity _).tokenless⟩
    show 1 ≤ (s.appendLine noRuntimeLine).2.capacity
    rw [(CallState.Learns.appendLine s noRuntimeLine).capacity]
    exact hcapacity

end ToldAt

/-! ## The end of the call, and its watcher -/

variable [WatchSource σ]

/-- A tracker is as it was, but that a token may have been taken in vain where there is no runtime. -/
structure Unmoved (t t' : Tracker σ) : Prop where
  frame : t' = { t with source := t'.source }
  source : t'.source = t.source ∨
    t.runtime = false ∧ t'.source = WatchSource.withTokens t.source t.tokens.issue

theorem Unmoved.refl (t : Tracker σ) : Unmoved t t := ⟨rfl, .inl rfl⟩

/-- A call that has ended does not end again. -/
theorem markDone_again [LawfulSource σ] (t : Tracker σ) (i : Nat) :
    (t.markDone i).markDone i = t.markDone i := by
  cases hs : t.cells[i]? with
  | none => rw [markDone_of_none hs, markDone_of_none hs]
  | some s =>
    have hlt := (List.getElem?_eq_some_iff.1 hs).1
    have hended : (t.markDone i).cells[i]? = some s.ended := by
      rw [markDone_eq hs]
      exact List.getElem?_set_self hlt
    have hsource : (t.markDone i).source =
        WatchSource.withTokens t.source (t.tokens.cancelAny s.token) := by
      rw [markDone_eq hs]
      rfl
    have htokens : (t.markDone i).withTokens (t.markDone i).tokens = t.markDone i := by
      rw [withTokens, tokens, hsource, LawfulSource.tokens_withTokens,
        LawfulSource.withTokens_withTokens, ← hsource]
    have hclaimed : (!s.ended.watching && !s.ended.cleanupClaimed) = false := by
      show (!s.watching && !(s.cleanupClaimed || !s.watching)) = false
      cases s.watching <;> cases s.cleanupClaimed <;> rfl
    have hsame : (t.markDone i).cells.set i s.ended.ended = (t.markDone i).cells := by
      have hagain : s.ended.ended = s.ended := by
        show { s.ended with cleanupClaimed := (s.cleanupClaimed || !s.watching) || !s.watching } = s.ended
        rw [Bool.or_assoc, Bool.or_self]
        rfl
      rw [hagain]
      exact congrArg Tracker.cells (setCell_self hended)
    rw [markDone_eq hended, hclaimed, hsame]
    exact htokens

/-- A watcher is not started twice for a call. -/
theorem startWatcher_again (t : Tracker σ) (i : Nat)
    (hcapacity : ∀ s, t.cells[i]? = some s → 1 ≤ s.capacity) :
    Unmoved (t.startWatcher i) ((t.startWatcher i).startWatcher i) := by
  obtain same | ⟨s, id, -, hs, -, -, -, ⟨-, started⟩ | ⟨hruntime, failed⟩⟩ := t.startWatcher_cases i
  · rw [same, same]
    exact .refl t
  · -- The call is watched now.
    have hwatched : (t.startWatcher i).cells[i]? = some (s.watched t.tokens.next) := by
      rw [started]
      exact List.getElem?_set_self (List.getElem?_eq_some_iff.1 hs).1
    obtain same | ⟨s', -, -, hs', -, -, hidle, -⟩ := (t.startWatcher i).startWatcher_cases i
    · rw [same]
      exact .refl _
    · obtain rfl := Option.some.inj (hwatched.symm.trans hs')
      cases hidle
  · have hcell : (t.startWatcher i).cells[i]? = some (s.appendLine noRuntimeLine).2.tokenless := by
      rw [failed]
      exact List.getElem?_set_self (List.getElem?_eq_some_iff.1 hs).1
    have hruntime' : (t.startWatcher i).runtime = false := by
      rw [failed]
      exact hruntime
    obtain same | ⟨s', -, -, hs', -, -, -, ⟨hruntime'', -⟩ | ⟨-, failed'⟩⟩ :=
      (t.startWatcher i).startWatcher_cases i
    · rw [same]
      exact .refl _
    · exact absurd (hruntime'.symm.trans hruntime'') (by decide)
    · obtain rfl := Option.some.inj (hcell.symm.trans hs')
      -- The line is there already.
      have hagain : ((s.appendLine noRuntimeLine).2.tokenless.appendLine noRuntimeLine).2.tokenless =
          (s.appendLine noRuntimeLine).2.tokenless := by
        rw [CallState.appendLine_tokenless, CallState.appendLine_again (hcapacity s hs)]
        rfl
      have hcells : (t.startWatcher i).cells.set i (s.appendLine noRuntimeLine).2.tokenless =
          (t.startWatcher i).cells := congrArg Tracker.cells (setCell_self hcell)
      rw [failed', hagain, hcells]
      exact ⟨rfl, .inr ⟨hruntime', rfl⟩⟩

/-- A call and its result that were taken in bring nothing when they are taken in again. -/
theorem absorb_again [LawfulSource σ] {t : Tracker σ} {i : Nat} {s : CallState}
    (hs : t.cells[i]? = some s) (hcapacity : 1 ≤ s.capacity) (call : ToolCall) (result : ToolResult) :
    Unmoved (t.absorb i call result) ((t.absorb i call result).absorb i call result) := by
  have told := ToldAt.of_absorb hs hcapacity call result
  -- Taking a call in a second time leaves a cell that knows it all to its end and its watcher.
  have again : ∀ u : Tracker σ, u.ToldAt i call result → u.absorb i call result =
      (if call.finished || result.isError then u.markDone i else u).startWatcher i := fun u hu => by
    rw [Tracker.absorb, hu.updateCell]
  have first : t.absorb i call result =
      (if call.finished || result.isError
        then (t.updateCell i (·.absorb t.catalog call result)).markDone i
        else t.updateCell i (·.absorb t.catalog call result)).startWatcher i := rfl
  rw [first]
  generalize t.updateCell i (·.absorb t.catalog call result) = v at told
  cases hover : call.finished || result.isError with
  | true =>
    have hended : (v.markDone i).DoneAt i := by
      obtain ⟨s, hs, -⟩ := told
      exact doneAt_markDone (List.getElem?_eq_some_iff.1 hs).1
    rw [if_pos rfl, startWatcher_of_doneAt hended, again _ told.markDone, hover, if_pos rfl,
      markDone_again, startWatcher_of_doneAt hended]
    exact .refl _
  | false =>
    have hcapacity : ∀ s, v.cells[i]? = some s → 1 ≤ s.capacity := fun s' hs' => by
      obtain ⟨s, hs, hcapacity, -⟩ := told
      obtain rfl : s = s' := Option.some.inj (hs.symm.trans hs')
      exact hcapacity
    rw [if_neg Bool.false_ne_true, again _ told.startWatcher, hover, if_neg Bool.false_ne_true]
    exact startWatcher_again v i hcapacity

/-! ## Renders -/

/-- What it is for a second render to change nothing. -/
structure RendersAgain (t : Tracker σ) (call : ToolCall) (result : ToolResult) : Prop where
  view : ((t.render call result).2.render call result).1 = (t.render call result).1
  unmoved : Unmoved (t.render call result).2 ((t.render call result).2.render call result).2

/-- Taking in a call leaves the list of calls alone. -/
theorem calls_absorb (t : Tracker σ) (i : Nat) (call : ToolCall) (result : ToolResult) :
    (t.absorb i call result).calls = t.calls := by
  have started : ∀ u : Tracker σ, (u.startWatcher i).calls = u.calls := fun u => by
    obtain same | ⟨s, id, -, -, -, -, -, ⟨-, same⟩ | ⟨-, same⟩⟩ := u.startWatcher_cases i
    all_goals exact (congrArg Tracker.calls same).trans rfl
  rw [absorb, started]
  split
  · rw [markDone_frame]
    rfl
  · rfl

omit [WatchSource σ] in
/-- A call that was looked up has its cell. -/
theorem cellOf?_ensureCell (t : Tracker σ) (callId : String) :
    (t.ensureCell callId).2.cellOf? callId = some (t.ensureCell callId).1 := by
  cases hi : t.cellOf? callId with
  | some i => rw [ensureCell_of_some hi, hi]
  | none =>
    rw [ensureCell_of_none hi]
    rw [cellOf?, Option.map_eq_none_iff] at hi
    rw [cellOf?, List.find?_append, hi]
    simp

theorem Kept.rendersAgain [LawfulSource σ] {t : Tracker σ} (kept : t.Kept)
    (hdelay : 0 < t.config.cleanupDelay.millis) (call : ToolCall) (result : ToolResult) :
    t.RendersAgain call result := by
  have keptSwept := kept.forgets t.sweep_forgets
  have swept : (t.render call result).2.Swept := by
    refine (swept_sweep kept).ages (.of_changes (t.render_changes call result)) ?_
    rw [(Expires.of_forgets t.sweep_forgets).config]
    exact hdelay
  cases hid : Text.firstNonBlank? [call.id, result.toolCallId] with
  | none =>
    have hpending : ∀ u : Tracker σ, (u.render call result).1 = .pending := fun u => by
      rw [render, hid]
    refine ⟨by rw [hpending, hpending], ?_⟩
    rw [render_of_none (t.render call result).2 hid, swept.sweep]
    exact .refl _
  | some callId =>
    have hs := (Performs.ensureCell keptSwept callId).found rfl
    rw [← ensureCell_fst] at hs
    have hcapacity := ((keptSwept.changes (ensureCell_changes t.sweep callId)).cell hs).capacity
    -- The second render finds the cell of the first.
    have found : (t.render call result).2.ensureCell callId =
        ((t.sweep.ensureCell callId).1, (t.render call result).2) := by
      refine ensureCell_of_some ?_
      rw [Tracker.cellOf?, t.render_eq hid, calls_absorb]
      exact cellOf?_ensureCell t.sweep callId
    have unmoved : Unmoved (t.render call result).2
        ((t.render call result).2.render call result).2 := by
      rw [render_eq (t.render call result).2 hid, swept.sweep, found]
      dsimp only
      rw [t.render_eq hid]
      exact absorb_again hs hcapacity call result
    refine ⟨?_, unmoved⟩
    rw [render_fst hid, render_fst hid, swept.sweep, found, unmoved.frame]

/-- A call that is rendered twice in a row shows the same both times, and the second render changes
nothing. -/
theorem render_again [LawfulSource σ] (config : TrackerConfig) (catalog : Catalog) (runtime : Bool)
    (source : σ) (run : List (Move σ)) (hdelay : 0 < config.cleanupDelay.millis) (call : ToolCall)
    (result : ToolResult) :
    ((new config catalog runtime source).moves run).RendersAgain call result := by
  refine Kept.rendersAgain (timely_moves (timely_new config catalog runtime source) run).kept ?_ call
    result
  rw [config_moves]
  exact hdelay

/-- A tracker whose caller has left its runtime. -/
def stranded : Tracker Broker := blank.moves [.step (.runtime false)]

/-- Without a runtime the first render says so, and the second leaves it at that. -/
theorem render_again_stranded :
    (stranded.render { id := "a" } naming).1.lines = [noRuntimeLine] ∧
      stranded.RendersAgain { id := "a" } naming :=
  ⟨by decide +kernel, render_again {} {} true (Broker.new 32) _ (by decide) { id := "a" } naming⟩

end TaskWatch.Tracker
