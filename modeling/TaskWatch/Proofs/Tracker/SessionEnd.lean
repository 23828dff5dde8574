import TaskWatch.Proofs.Tracker.Group
import TaskWatch.Proofs.Tracker.Unwatched

/-!
# The end of a session

To cancel a session is to end its calls, and nothing else (`Tracker.EndsSession`). Whatever happens
afterwards, each of them is over as soon as its watcher has run once more: it is disposable, with one
eviction, and it is not watched again (`Tracker.SessionOver`).
-/

namespace TaskWatch.Tracker

variable {σ : Type}

/-- Whether a cell is the current one of a call of a session. -/
def OfSession (t : Tracker σ) (id : String) (i : Nat) : Prop :=
  t.Holds i ∧ ∃ s, t.cells[i]? = some s ∧ s.sessionId = some id

theorem mem_sessionCells {t : Tracker σ} {id : String} {i : Nat} :
    i ∈ t.sessionCells id ↔ t.OfSession id i := by
  simp only [sessionCells, List.mem_filter, Option.any_eq_true, beq_iff_eq, OfSession, Holds]

theorem length_sessionCells (t : Tracker σ) (id : String) : (t.sessionCells id).length =
    t.calls.countP fun (_, i) => (t.cells[i]?).any (·.sessionId == some id) := by
  rw [sessionCells, ← List.countP_eq_length_filter, List.countP_map]
  rfl

variable [WatchSource σ]

/-- What it is to end a session, and how many calls it had. -/
structure EndsSession (t : Tracker σ) (id : String) (count : Nat) (t' : Tracker σ) : Prop where
  count : count = t.calls.countP fun (_, i) => (t.cells[i]?).any (·.sessionId == some id)
  ended : ∀ {i s}, t.OfSession id i → t.cells[i]? = some s → t'.cells[i]? = some s.ended
  /-- All other calls stay as they are, in every respect. -/
  others : ∀ {i : Nat}, ¬t.OfSession id i → t'.cells[i]? = t.cells[i]?
  calls : t'.calls = t.calls
  watchers : t'.watchers = t.watchers
  /-- Evictions are planned for calls of the session only. -/
  planned : ∃ new, t'.evictions = t.evictions ++ new ∧ ∀ e ∈ new, t.OfSession id e.cell
  /-- The running watchers of the session are cancelled. -/
  stopped : ∀ v ∈ t.watchers, v.stage ≠ .finished → t.OfSession id v.cell →
    t'.tokens.isCancelled v.token = true
  /-- All other running watchers are cancelled only if they were before. -/
  spared : ∀ v ∈ t.watchers, v.stage ≠ .finished → ¬t.OfSession id v.cell →
    t'.tokens.isCancelled v.token = t.tokens.isCancelled v.token

/-- What holds later of a call that was ended with its session, when there were so many watchers. -/
structure SessionOver (t : Tracker σ) (id : String) (i before : Nat) : Prop where
  unwatched : t.Unwatched i before
  session : ∃ s, t.cells[i]? = some s ∧ s.sessionId = some id
  /-- A watcher of it that is still running finishes when it goes on. -/
  finishes : ∀ {w : Nat} {v}, t.watchers[w]? = some v → v.cell = i → v.stage ≠ .finished →
    (t.poll w).watchers[w]? = some { v with stage := .finished }
  /-- Once its watchers have finished, it is disposable, with one eviction for all times. -/
  settled : ∀ {s}, t.cells[i]? = some s → (∀ v ∈ t.watchers, v.cell = i → v.stage = .finished) →
    s.disposable = true ∧ planned t.evictions i = 1

variable [HeedfulSource σ]

theorem Guarded.endsSession {t : Tracker σ} (h : t.Guarded) (id : String) :
    t.EndsSession id (t.sessionCells id).length ((t.sessionCells id).foldl Tracker.markDone t) := by
  have strikes := t.foldl_markDone (t.sessionCells id)
  have changes : Changes none t ((t.sessionCells id).foldl Tracker.markDone t) :=
    foldl_changes (fun t i => .single (.markDone t i)) t (t.sessionCells id)
  generalize (t.sessionCells id).foldl Tracker.markDone t = t' at strikes changes ⊢
  have others : ∀ {i : Nat}, ¬t.OfSession id i → t'.cells[i]? = t.cells[i]? := fun hi => by
    rw [strikes.cell, if_neg (mt mem_sessionCells.1 hi)]
  refine ⟨t.length_sessionCells id, fun hi hs => ?_, others, ?_, ?_, ?_,
    fun v hv hstage hi => ?_, fun v hv hstage hi => ?_⟩
  · rw [strikes.cell, if_pos (mem_sessionCells.2 hi), hs, Option.map_some]
  · rw [strikes.frame]
  · rw [strikes.frame]
  · obtain ⟨new, hnew, -⟩ := (Ages.of_changes changes).planned
    refine ⟨new, hnew, fun e he => by_contra fun hi => ?_⟩
    -- Another cell is as disposable as before, so no eviction of it was planned.
    have kept := h.kept.changes changes
    obtain ⟨s', hs'⟩ : ∃ s', t'.cells[e.cell]? = some s' := ⟨_, List.getElem?_eq_getElem
      (kept.eviction e (hnew ▸ List.mem_append_right t.evictions he))⟩
    have before := (h.kept.cell ((others hi).symm.trans hs')).planned
    have after := (kept.cell hs').planned
    have hpos : 0 < TaskWatch.planned new e.cell := List.countP_pos_iff.2 ⟨e, he, by simp⟩
    rw [hnew, TaskWatch.planned, List.countP_append, ← before] at after
    rw [TaskWatch.planned] at hpos after
    omega
  · obtain ⟨s, hs, -⟩ := h.kept.watcher v hv
    rw [strikes.cancelled]
    obtain hheld | hc := h.armed.running v hv hstage hs
    · exact .inr ⟨v.cell, mem_sessionCells.2 hi, s, hs, hheld⟩
    · exact .inl hc
  · obtain ⟨s, hs, -⟩ := h.kept.watcher v hv
    rw [Bool.eq_iff_iff, strikes.cancelled]
    refine ⟨fun hc => ?_, .inl⟩
    obtain hc | ⟨i, hm, s', hs', he⟩ := hc
    · exact hc
    · obtain hheld | hc := h.armed.running v hv hstage hs
      · -- No other cell holds the token of the watcher.
        have hcell := h.armed.distinct hs hs' hheld he
        exact absurd (hcell ▸ mem_sessionCells.1 hm) hi
      · exact hc

theorem Guarded.sessionOver {t : Tracker σ} (h : t.Guarded) {id : String} {i before : Nat}
    (hunwatched : t.Unwatched i before) (hsession : ∃ s, t.cells[i]? = some s ∧ s.sessionId = some id) :
    t.SessionOver id i before where
  unwatched := hunwatched
  session := hsession
  finishes {w v} hw hcell hstage := by
    obtain ⟨s, hs, hended⟩ := hunwatched.done
    have hv := List.mem_of_getElem? hw
    have hs : t.cells[v.cell]? = some s := hcell ▸ hs
    have hc : t.tokens.isCancelled v.token = true := by
      refine (h.armed.running v hv hstage hs).resolve_left fun hheld => ?_
      rw [h.armed.ended hs hended] at hheld
      cases hheld
    rw [poll_cancelled hw hstage hs hc, List.getElem?_set_self (List.getElem?_eq_some_iff.1 hw).1]
  settled {s} hs hfinished := by
    obtain ⟨s₁, hs₁, hended⟩ := hunwatched.done
    obtain rfl : s = s₁ := Option.some.inj (hs.symm.trans hs₁)
    have kept := h.kept.cell hs
    have hnone : unfinished t.watchers i = 0 := List.countP_eq_zero.2 fun v hv => by
      simp only [Bool.and_eq_true, beq_iff_eq, bne_iff_ne, ne_eq, not_and, not_not]
      exact hfinished v hv
    have hwatching : s.watching = false := by
      have := kept.watched
      rw [hnone] at this
      cases hw : s.watching with
      | false => rfl
      | true => rw [hw] at this; exact absurd this (by decide)
    have hdisposable : s.disposable = true := by
      rw [CallState.disposable, hended, hwatching]
      rfl
    exact ⟨hdisposable, by rw [kept.planned, if_pos hdisposable]⟩

/-- A state that a run from the start comes to. -/
def Reachable (t : Tracker σ) : Prop :=
  ∃ config catalog runtime source run, (new config catalog runtime source).Heeded run ∧
    t = (new config catalog runtime source).moves run

theorem Reachable.guarded {t : Tracker σ} (h : t.Reachable) : t.Guarded := by
  obtain ⟨config, catalog, runtime, source, run, hheeded, rfl⟩ := h
  exact (Guarded.new config catalog runtime source).moves hheeded

/-- Cancelling a session ends its calls and nothing else, and they stay over. A blank id names no
session. -/
theorem cancelSession_exact {t : Tracker σ} (h : t.Reachable) (sessionId : String) :
    match Text.nonBlank? sessionId with
    | none => t.cancelSession sessionId = (0, t)
    | some id =>
      t.EndsSession id (t.cancelSession sessionId).1 (t.cancelSession sessionId).2 ∧
        ∀ rest, (t.cancelSession sessionId).2.Heeded rest → ∀ i, t.OfSession id i →
          ((t.cancelSession sessionId).2.moves rest).SessionOver id i t.watchers.length := by
  cases hid : Text.nonBlank? sessionId with
  | none => rw [cancelSession, hid]
  | some id =>
    have hcancel : t.cancelSession sessionId =
        ((t.sessionCells id).length, (t.sessionCells id).foldl Tracker.markDone t) := by
      rw [cancelSession, hid]
    have guarded : (t.cancelSession sessionId).2.Guarded :=
      h.guarded.changes (t.cancelSession_changes sessionId)
    have ends := h.guarded.endsSession id
    rw [hcancel] at guarded ⊢
    refine ⟨ends, fun rest hheeded i hi => ?_⟩
    have watches := Watches.of_moves hheeded
    have ⟨_, s, hs, hsession⟩ := hi
    obtain ⟨s', hs', hprecedes⟩ := Passes.of_moves _ rest (ends.ended hi hs)
    have hdone : ((t.sessionCells id).foldl Tracker.markDone t).DoneAt i := ⟨_, ends.ended hi hs, rfl⟩
    have guarded' := guarded.moves hheeded
    refine guarded'.sessionOver (guarded'.unwatched (watches.done hdone) fun hw hcell => ?_)
      ⟨s', hs', hprecedes.sessionId id hsession⟩
    rw [← ends.watchers]
    exact watches.lt_of_done (hcell ▸ hdone) hw

/-- Two calls of one session, of which the second is done, and a call of another session. -/
def twoSessions : Tracker Broker :=
  blank.moves (([.render { id := "a", sessionId := "s" } naming,
    .render { id := "b", sessionId := "s", finished := true } {},
    .render { id := "c", sessionId := "r" } naming] : List TrackerStep).map .step)

theorem cancelSession_twoSessions :
    twoSessions.EndsSession "s" 2 (twoSessions.cancelSession " s ").2 ∧
      ((twoSessions.cancelSession " s ").2.moves [.step (.poll 0)]).SessionOver "s" 0 2 := by
  have hreachable : twoSessions.Reachable :=
    ⟨{}, {}, true, .new 32, _, heeded_steps blank _, rfl⟩
  have hid : Text.nonBlank? " s " = some "s" := by decide
  have hcount : (twoSessions.cancelSession " s ").1 = 2 := by decide +kernel
  have hwatchers : twoSessions.watchers.length = 2 := by decide +kernel
  have hsession : twoSessions.OfSession "s" 0 := mem_sessionCells.1 (by decide +kernel)
  have h := cancelSession_exact hreachable " s "
  rw [hid] at h
  dsimp only at h
  rw [hcount, hwatchers] at h
  exact ⟨h.1, h.2 [.step (.poll 0)] ⟨trivial, trivial⟩ 0 hsession⟩

end TaskWatch.Tracker
