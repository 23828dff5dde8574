import Mathlib.Logic.Relation
import TaskWatch.Proofs.Call.Watch
import TaskWatch.Tracker.Session

/-!
# What a step of a tracker can do

Every step of a tracker, however much it does, is a row of a few *changes*: a cell learns something,
is made, is marked done or has its watch cancelled; a watcher starts, opens its stream, takes events,
ends its call or finishes. They are the changes of the caller, or of the one watcher that is polled.
Before them evictions may go on: the delay of one starts, or it runs. `Tracker.Change` and
`Tracker.Forget` list what happens with all that is known when it does, and `Tracker.step_cases`
says that nothing else happens. Whatever all of them keep is thereby kept by every step.
-/

namespace TaskWatch

/-- The watcher that a step is left to; none if it is the caller's. -/
def TrackerStep.actor : TrackerStep → Option Nat
  | .poll w => some w
  | _ => none

namespace Tracker

variable {σ : Type} [WatchSource σ]

/-- One change of a tracker, at a fixed moment: by the watcher with a number, or by the caller. -/
inductive Change : Option Nat → Tracker σ → Tracker σ → Prop where
  | learn {actor : Option Nat} {t : Tracker σ} {i : Nat} {s s' : CallState}
      (hs : t.cells[i]? = some s) (h : s.Learns s') : Change actor t (t.setCell i s')
  | create {t : Tracker σ} {callId : String} (h : t.cellOf? callId = none) :
      Change none t (t.ensureCell callId).2
  | markDone (t : Tracker σ) (i : Nat) : Change none t (t.markDone i)
  | cancelWatch (t : Tracker σ) (i : Nat) : Change none t (t.cancelWatch i)
  | startWatcher (t : Tracker σ) (i : Nat) : Change none t (t.startWatcher i)
  | openStream {t : Tracker σ} {w : Nat} {watcher : Watcher} {stream : Nat} {source : σ}
      (hw : t.watchers[w]? = some watcher) (hstage : watcher.stage = .starting)
      (h : WatchSource.openWatch t.source watcher.taskId watcher.token = (.ok stream, source)) :
      Change (some w) t { t with
        source := source
        watchers := t.watchers.set w { watcher with stage := .following stream } }
  | failStream {t : Tracker σ} {w : Nat} {watcher : Watcher} {e : ClientError} {source : σ}
      (hw : t.watchers[w]? = some watcher) (hstage : watcher.stage = .starting)
      (h : WatchSource.openWatch t.source watcher.taskId watcher.token = (.error e, source)) :
      Change (some w) t { t with source := source }
  /-- A watcher gives up that has no stream. -/
  | giveUp {t : Tracker σ} {w : Nat} {watcher : Watcher}
      (hw : t.watchers[w]? = some watcher) (hstage : watcher.stage = .starting) :
      Change (some w) t (t.finishWatcher w watcher)
  | takeEvents {t : Tracker σ} {w : Nat} {watcher : Watcher} {stream : Nat}
      (hw : t.watchers[w]? = some watcher) (hstage : watcher.stage = .following stream) :
      Change (some w) t { t with source := (WatchSource.takeEvents t.source stream).2.2 }
  /-- A watcher that follows its stream ends its call. -/
  | endCall {t : Tracker σ} {w : Nat} {watcher : Watcher} {stream : Nat}
      (hw : t.watchers[w]? = some watcher) (hstage : watcher.stage = .following stream) :
      Change (some w) t (t.markDone watcher.cell)
  /-- A watcher lets its stream go. -/
  | release {t : Tracker σ} {w : Nat} {watcher : Watcher} {stream : Nat}
      (hw : t.watchers[w]? = some watcher) (hstage : watcher.stage = .following stream) :
      Change (some w) t
        ({ t with source := WatchSource.release t.source stream }.finishWatcher w watcher)
  | close (t : Tracker σ) : Change none t { t with closed := true }
  | runtime (actor : Option Nat) (t : Tracker σ) (available : Bool) :
      Change actor t { t with runtime := available }

/-- A row of changes. -/
abbrev Changes (actor : Option Nat) : Tracker σ → Tracker σ → Prop :=
  Relation.ReflTransGen (Change actor)

/-- What an eviction does when it goes on. -/
inductive Forget : Tracker σ → Tracker σ → Prop where
  /-- Its delay starts. -/
  | startDelay {t : Tracker σ} {k : Nat} {e : Eviction} (hk : t.evictions[k]? = some e)
      (hran : e.ran = false) (hdeferred : e.deferred = false) (hdue : e.due = none) :
      Forget t { t with evictions := t.evictions.set k { e with due := some t.cleanupTime } }
  | run {t : Tracker σ} {k : Nat} {e : Eviction} {due : Nat}
      (hk : t.evictions[k]? = some e) (hran : e.ran = false)
      (hdue : e.due = some due) (hpast : due ≤ t.now) : Forget t (t.runEviction k e)

/-- A row of evictions that go on. -/
abbrev Forgets : Tracker σ → Tracker σ → Prop := Relation.ReflTransGen Forget

/-! ## Operations of the caller -/

omit [WatchSource σ] in
theorem updateCell_eq {t : Tracker σ} {i : Nat} {s : CallState} (hs : t.cells[i]? = some s)
    (f : CallState → CallState) : t.updateCell i f = t.setCell i (f s) := by
  obtain ⟨hlt, rfl⟩ := List.getElem?_eq_some_iff.1 hs
  rw [updateCell, setCell]
  congr 1
  refine List.ext_getElem? fun j => ?_
  rw [List.getElem?_modify, List.getElem?_set]
  split
  · next e => subst e; simp [hlt]
  · simp

omit [WatchSource σ] in
theorem updateCell_of_none {t : Tracker σ} {i : Nat} (hs : t.cells[i]? = none)
    (f : CallState → CallState) : t.updateCell i f = t := by
  rw [updateCell, List.modify_eq_self (List.getElem?_eq_none_iff.1 hs)]

theorem updateCell_changes (actor : Option Nat) (t : Tracker σ) (i : Nat)
    {f : CallState → CallState} (h : ∀ s : CallState, s.Learns (f s)) :
    Changes actor t (t.updateCell i f) := by
  cases hs : t.cells[i]? with
  | none => rw [updateCell_of_none hs]
  | some s => exact updateCell_eq hs f ▸ .single (.learn hs (h s))

theorem ensureCell_changes (t : Tracker σ) (callId : String) :
    Changes none t (t.ensureCell callId).2 := by
  cases h : t.cellOf? callId with
  | none => exact .single (.create h)
  | some i => rw [ensureCell, h]

theorem foldl_changes {α : Type} {f : Tracker σ → α → Tracker σ}
    (h : ∀ t a, Changes none t (f t a)) (t : Tracker σ) (as : List α) :
    Changes none t (as.foldl f t) := by
  induction as generalizing t with
  | nil => exact .refl
  | cons a as ih => exact (h t a).trans (ih _)

theorem absorb_changes (t : Tracker σ) (i : Nat) (call : ToolCall) (result : ToolResult) :
    Changes none t (t.absorb i call result) := by
  unfold absorb
  refine .tail ?_ (.startWatcher _ i)
  have learnt : Changes none t (t.updateCell i (·.absorb t.catalog call result)) :=
    t.updateCell_changes none i fun s => .absorb s t.catalog call result
  split
  · exact learnt.tail (.markDone _ i)
  · exact learnt

theorem render_changes (t : Tracker σ) (call : ToolCall) (result : ToolResult) :
    Changes none t.sweep (t.render call result).2 := by
  unfold render
  dsimp only
  split
  · exact .refl
  · next callId _ =>
    have absorbed := (t.sweep.ensureCell_changes callId).trans
      (absorb_changes _ (t.sweep.ensureCell callId).1 call result)
    split <;> exact absorbed

theorem updateSnapshot_changes (t : Tracker σ) (callId label : String) (lines : List String)
    (finished : Bool) : Changes none t (t.updateSnapshot callId label lines finished) := by
  unfold updateSnapshot
  split
  · exact .refl
  · next callId _ =>
    have learnt := (t.ensureCell_changes callId).trans
      (updateCell_changes none _ (t.ensureCell callId).1 fun s : CallState =>
        (CallState.Learns.updateLabel s label .external).trans (.replaceLines _ lines))
    dsimp only
    split
    · exact learnt.tail (.markDone _ _)
    · exact learnt

theorem cancelSession_changes (t : Tracker σ) (sessionId : String) :
    Changes none t (t.cancelSession sessionId).2 := by
  unfold cancelSession
  split
  · exact .refl
  · exact foldl_changes (fun t i => .single (.markDone t i)) t _

theorem shutdown_changes (t : Tracker σ) : Changes none t t.shutdown :=
  .head (.close t) (foldl_changes (fun t i => .single (.cancelWatch t i)) _ _)

theorem cancelCall_changes (t : Tracker σ) (callId : String) :
    Changes none t (t.cancelCall callId).2 := by
  unfold cancelCall
  split
  · exact .single (.cancelWatch t _)
  · exact .refl

/-! ## Watchers -/

theorem foldEvents_changes {t : Tracker σ} {w stream : Nat} {watcher : Watcher}
    (hw : t.watchers[w]? = some watcher) (hstage : watcher.stage = .following stream)
    (events : List Event) : Changes (some w) t (t.foldEvents watcher.cell events).2 := by
  induction events generalizing t with
  | nil => exact .refl
  | cons event rest ih =>
    rw [foldEvents]
    split
    · exact .refl
    · next s hs =>
      have learnt : Change (some w) t (t.setCell watcher.cell (s.applyEvent t.catalog event).2) :=
        .learn hs (.applyEvent s t.catalog event)
      dsimp only
      split
      · exact .tail (.single learnt) (.endCall hw hstage)
      · exact .head learnt (ih hw)

theorem watchers_markDone (t : Tracker σ) (i : Nat) : (t.markDone i).watchers = t.watchers := by
  unfold Tracker.markDone scheduleIf
  split
  · dsimp only
    split <;> rfl
  · rfl

/-- Folding events leaves all watchers as they are. -/
theorem watchers_foldEvents (t : Tracker σ) (i : Nat) (events : List Event) :
    (t.foldEvents i events).2.watchers = t.watchers := by
  induction events generalizing t with
  | nil => rfl
  | cons event rest ih =>
    rw [foldEvents]
    split
    · rfl
    · dsimp only
      split
      · exact watchers_markDone _ i
      · exact ih _

theorem follow_changes {t : Tracker σ} {w stream : Nat} {watcher : Watcher}
    (hw : t.watchers[w]? = some watcher) (hstage : watcher.stage = .following stream) :
    Changes (some w) t (t.follow w watcher stream) := by
  have folded : Changes (some w) t
      ({ t with source := (WatchSource.takeEvents t.source stream).2.2 }.foldEvents
        watcher.cell (WatchSource.takeEvents t.source stream).1).2 :=
    .head (.takeEvents hw hstage) (foldEvents_changes (t := { t with
      source := (WatchSource.takeEvents t.source stream).2.2 }) hw hstage _)
  unfold follow
  dsimp only
  split
  · refine folded.tail (.release ?_ hstage)
    rw [watchers_foldEvents]
    exact hw
  · exact folded

theorem wake_changes (t : Tracker σ) (w : Nat) : Changes (some w) t (t.wake w) := by
  unfold wake
  split
  · exact .refl
  · next watcher hw =>
    have hlt := (List.getElem?_eq_some_iff.1 hw).1
    split
    · exact .refl
    · next stream hstage => exact follow_changes hw hstage
    · next hstage =>
      split
      · next stream source hopen =>
        refine .head (.openStream hw hstage hopen) (follow_changes ?_ rfl)
        simp [hlt]
      · next e source hopen =>
        have failed : Changes (some w) t { t with source := source } :=
          .single (.failStream hw hstage hopen)
        dsimp only
        split
        · exact (failed.trans (updateCell_changes _ _ _ fun s => .appendLine s _)).tail
            (.giveUp hw hstage)
        · exact failed.tail (.giveUp hw hstage)

theorem poll_changes (t : Tracker σ) (w : Nat) : Changes (some w) t (t.poll w) :=
  .tail (.head (.runtime _ t true) (wake_changes _ w)) (.runtime _ _ t.runtime)

/-! ## Evictions -/

section

omit [WatchSource σ]

theorem sweepEviction_forgets (t : Tracker σ) (k : Nat) : Forgets t (t.sweepEviction k) := by
  unfold sweepEviction
  split
  · exact .refl
  · next e hk =>
    split
    · next h =>
      simp only [Bool.and_eq_true, Bool.not_eq_true', Option.any_eq_true,
        decide_eq_true_eq] at h
      obtain ⟨⟨-, hran⟩, due, hdue, hpast⟩ := h
      exact .single (.run hk hran hdue hpast)
    · exact .refl

theorem sweepEvictions_forgets (t : Tracker σ) (ks : List Nat) :
    Forgets t (ks.foldl sweepEviction t) := by
  induction ks generalizing t with
  | nil => exact .refl
  | cons k ks ih => exact (t.sweepEviction_forgets k).trans (ih _)

theorem sweep_forgets (t : Tracker σ) : Forgets t t.sweep := t.sweepEvictions_forgets _

theorem pollEviction_forgets (t : Tracker σ) (k : Nat) : Forgets t (t.pollEviction k) := by
  unfold pollEviction
  split
  · exact .refl
  · next e hk =>
    split
    · exact .refl
    · next h =>
      simp only [Bool.or_eq_true, not_or, Bool.not_eq_true] at h
      obtain ⟨hdeferred, hran⟩ := h
      have hlt := (List.getElem?_eq_some_iff.1 hk).1
      cases hdue : e.due with
      | some due =>
        have same : { e with due := some due } = e := by rw [← hdue]
        simp only [Option.getD_some, same]
        split
        · next hpast => exact .single (.run hk hran hdue hpast)
        · obtain ⟨-, rfl⟩ := List.getElem?_eq_some_iff.1 hk
          rw [List.set_getElem_self]
      | none =>
        have started := Forget.startDelay hk hran hdeferred hdue
        simp only [Option.getD_none]
        split
        · next hpast =>
          refine .tail (.single started) ?_
          have hk' : (t.evictions.set k { e with due := some t.cleanupTime })[k]? =
              some { e with due := some t.cleanupTime } := by simp [hlt]
          have run := Forget.run (t := { t with
            evictions := t.evictions.set k { e with due := some t.cleanupTime } }) hk' hran rfl hpast
          rwa [Tracker.runEviction, List.set_set] at run
        · exact .single started

end

/-- Every step but the passing of time lets evictions go on, and then is a row of changes. -/
theorem step_cases (t : Tracker σ) (step : TrackerStep) :
    (∃ u, Forgets t u ∧ Changes step.actor u (t.step step)) ∨ ∃ millis, step = .advance millis := by
  cases step with
  | render call result => exact .inl ⟨_, t.sweep_forgets, t.render_changes call result⟩
  | updateSnapshot callId label lines finished =>
    exact .inl ⟨t, .refl, t.updateSnapshot_changes callId label lines finished⟩
  | cancelSession sessionId => exact .inl ⟨t, .refl, t.cancelSession_changes sessionId⟩
  | cancelCall callId => exact .inl ⟨t, .refl, t.cancelCall_changes callId⟩
  | shutdown => exact .inl ⟨t, .refl, t.shutdown_changes⟩
  | poll w => exact .inl ⟨t, .refl, t.poll_changes w⟩
  | pollEviction k => exact .inl ⟨_, t.pollEviction_forgets k, .refl⟩
  | advance millis => exact .inr ⟨millis, rfl⟩
  | runtime available => exact .inl ⟨t, .refl, .single (.runtime _ t available)⟩

end Tracker

end TaskWatch
