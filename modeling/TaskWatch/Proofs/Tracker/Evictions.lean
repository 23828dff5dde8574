import Mathlib.Data.List.Induction
import TaskWatch.Proofs.Tracker.Passage

/-!
# Evictions are exact

A run of a tracker is a list of moves: its steps, and changes of its source, of which nothing is
known. In every run evictions are neither lost nor planned twice, neither early nor overdue, and
each forgets its own cell (`Tracker.evictions_exact`).

A cell is current until its eviction has run (`Books`), so it is enough to follow the evictions. What
is known of their times is `Eviction.Timed`, relative to the moment at which the cell became
disposable; `Timely` says it of all of them, and every move keeps it.
-/

namespace TaskWatch

/-- What can happen to a tracker: a step, or anything at all to its source. -/
inductive Move (σ : Type) where
  | step (step : TrackerStep)
  | source (source : σ)

namespace Tracker

variable {σ : Type}

/-- Whether a cell is the current one of a call. -/
def Holds (t : Tracker σ) (i : Nat) : Prop := i ∈ t.calls.map (·.2)

/-- Whether a cell may be forgotten. -/
def disposableAt (t : Tracker σ) (i : Nat) : Bool := (t.cells[i]?).any (·.disposable)

theorem disposableAt_iff {t : Tracker σ} {i : Nat} :
    t.disposableAt i = true ↔ ∃ s, t.cells[i]? = some s ∧ s.disposable = true :=
  Option.any_eq_true _ _

section

variable [WatchSource σ]

/-- The effect of a move. -/
def move (t : Tracker σ) : Move σ → Tracker σ
  | .step step => t.step step
  | .source source => { t with source := source }

/-- The effect of a list of moves. -/
def moves (t : Tracker σ) (run : List (Move σ)) : Tracker σ := run.foldl move t

/-- What the clock showed when a cell became disposable in a run. -/
def disposableSince (t : Tracker σ) (i : Nat) : List (Move σ) → Option Nat
  | [] => if t.disposableAt i then some t.now else none
  | m :: run => if t.disposableAt i then some t.now else (t.move m).disposableSince i run

theorem moves_append (t : Tracker σ) (run run' : List (Move σ)) :
    t.moves (run ++ run') = (t.moves run).moves run' := List.foldl_append

theorem moves_concat (t : Tracker σ) (run : List (Move σ)) (m : Move σ) :
    t.moves (run ++ [m]) = (t.moves run).move m := moves_append t run [m]

theorem disposableSince_concat (t : Tracker σ) (i : Nat) (run : List (Move σ)) (m : Move σ) :
    t.disposableSince i (run ++ [m]) = (t.disposableSince i run).or
      (if (t.moves (run ++ [m])).disposableAt i then some (t.moves (run ++ [m])).now else none) := by
  induction run generalizing t with
  | nil =>
    simp only [List.nil_append, disposableSince]
    split <;> rfl
  | cons m' run ih =>
    simp only [List.cons_append, disposableSince]
    split
    · rfl
    · exact ih (t.move m')

theorem Kept.move {t : Tracker σ} (h : t.Kept) (m : Move σ) : (t.move m).Kept := by
  cases m with
  | step step => exact h.step step
  | source => exact h

theorem Passes.of_move (t : Tracker σ) (m : Move σ) : Passes t (t.move m) := by
  cases m with
  | step step => exact .of_step t step
  | source => exact .of_eq rfl (Nat.le_refl _) rfl rfl

theorem config_moves (t : Tracker σ) (run : List (Move σ)) : (t.moves run).config = t.config := by
  induction run generalizing t with
  | nil => rfl
  | cons m run ih => exact (ih _).trans (Passes.of_move t m).config

end

theorem Passes.disposableAt {t t' : Tracker σ} (h : Passes t t') {i : Nat}
    (hd : t.disposableAt i = true) : t'.disposableAt i = true := by
  obtain ⟨s, hs, hd⟩ := disposableAt_iff.1 hd
  obtain ⟨s', hs', hp⟩ := h.cell hs
  exact disposableAt_iff.2 ⟨s', hs', hp.disposable hd⟩

/-! ## Cells that leave -/

/-- Whether the eviction of a cell has run. -/
def Forgotten (t : Tracker σ) (i : Nat) : Prop :=
  ∃ (k : Nat) (e : Eviction), t.evictions[k]? = some e ∧ e.cell = i ∧ e.ran = true

theorem Passes.forgotten {t t' : Tracker σ} (h : Passes t t') {i : Nat} (hf : t.Forgotten i) :
    t'.Forgotten i := by
  obtain ⟨k, e, hk, hcell, hran⟩ := hf
  obtain ⟨e', hk', hc⟩ := h.eviction hk
  exact ⟨k, e', hk', hc.cell.trans hcell, hc.ran hran⟩

theorem Forgotten.moves [WatchSource σ] {t : Tracker σ} {i : Nat} (h : t.Forgotten i)
    (run : List (Move σ)) : (t.moves run).Forgotten i := by
  induction run generalizing t with
  | nil => exact h
  | cons m run ih => exact ih ((Passes.of_move t m).forgotten h)

theorem Forgotten.forgets {t t' : Tracker σ} {i : Nat} (h : t.Forgotten i) (hf : Forgets t t') :
    t'.Forgotten i := by
  obtain ⟨k, e, hk, hcell, hran⟩ := h
  obtain ⟨e', hk', hc⟩ := (Expires.of_forgets hf).eviction hk
  exact ⟨k, e', hk', hc.cell.trans hcell, hc.ran hran⟩

/-- A cell whose eviction has run is gone. -/
theorem Forgotten.not_holds {t : Tracker σ} {i : Nat} (h : t.Forgotten i) (hkept : t.Kept) :
    ¬t.Holds i := by
  obtain ⟨k, e, hk, rfl, hran⟩ := h
  intro hi
  have hm := List.mem_of_getElem? hk
  have kept := hkept.cell (List.getElem?_eq_getElem (hkept.eviction e hm))
  rw [kept.current.1 hi e hm rfl] at hran
  exact absurd hran (by decide)

theorem Kept.forgotten_of_not_holds {t : Tracker σ} (hkept : t.Kept) {i : Nat} {s : CallState}
    (hs : t.cells[i]? = some s) (hi : ¬t.Holds i) : t.Forgotten i := by
  have hall := mt (hkept.cell hs).current.2 hi
  simp only [not_forall] at hall
  obtain ⟨e, hm, hcell, hran⟩ := hall
  obtain ⟨k, hk⟩ := List.mem_iff_getElem?.1 hm
  exact ⟨k, e, hk, hcell, eq_true_of_ne_false hran⟩

/-- The cells that leave are those whose evictions run. -/
theorem Passes.left_iff {t t' : Tracker σ} (h : Passes t t') (hkept : t.Kept) (hkept' : t'.Kept)
    (i : Nat) : (t.Holds i ∧ ¬t'.Holds i) ↔ ∃ (k : Nat) (e e' : Eviction),
      t.evictions[k]? = some e ∧ e.cell = i ∧ e.ran = false ∧ t'.evictions[k]? = some e' ∧ e'.ran = true := by
  constructor
  · rintro ⟨hi, hi'⟩
    obtain ⟨⟨id, i'⟩, hm, e⟩ := List.mem_map.1 hi
    dsimp only at e
    subst e
    obtain ⟨s, hs, -⟩ := hkept.entry hm
    obtain ⟨s', hs', -⟩ := h.cell hs
    obtain ⟨k, e', hk', hcell, hran⟩ := hkept'.forgotten_of_not_holds hs' hi'
    cases hk : t.evictions[k]? with
    | none =>
      rw [(h.fresh hk hk').1] at hran
      exact absurd hran (by decide)
    | some e =>
      obtain ⟨e₁, hk₁, hc⟩ := h.eviction hk
      obtain rfl : e₁ = e' := Option.some.inj (hk₁.symm.trans hk')
      have hcell' := hc.cell.symm.trans hcell
      exact ⟨k, e, e₁, hk, hcell', (hkept.cell hs).current.1 hi e (List.mem_of_getElem? hk) hcell',
        hk', hran⟩
  · rintro ⟨k, e, e', hk, rfl, hran, hk', hran'⟩
    obtain ⟨s, hs, -, hm⟩ := hkept.pending hk hran
    obtain ⟨e₁, hk₁, hc⟩ := h.eviction hk
    obtain rfl : e₁ = e' := Option.some.inj (hk₁.symm.trans hk')
    exact ⟨List.mem_map.2 ⟨_, hm, rfl⟩,
      Forgotten.not_holds ⟨k, e₁, hk', hc.cell, hran'⟩ hkept'⟩

/-! ## When evictions are due -/

end Tracker

/-- What is known of the times of an eviction whose cell has been disposable since a moment. -/
structure Eviction.Timed (since delay now : Nat) (e : Eviction) : Prop where
  early : ∀ {d}, e.due = some d → since + delay ≤ d
  late : ∀ {d}, e.due = some d → d ≤ now + delay
  deferred : e.deferred = true → e.due = some (since + delay)
  ran : e.ran = true → ∃ d, e.due = some d ∧ d ≤ now

namespace Eviction

variable {since delay now now' : Nat} {e e' : Eviction}

theorem Fresh.timed (h : e.Fresh (now + delay)) : e.Timed now delay now := by
  obtain ⟨hran, ⟨hdeferred, hdue⟩ | ⟨hdeferred, hdue⟩⟩ := h
  · have same : ∀ {d}, e.due = some d → d = now + delay := fun h =>
      (Option.some.inj (hdue.symm.trans h)).symm
    exact ⟨fun h => Nat.le_of_eq (same h).symm, fun h => Nat.le_of_eq (same h), fun _ => hdue,
      fun h => absurd (hran.symm.trans h) (by decide)⟩
  · exact ⟨fun h => absurd (hdue.symm.trans h) nofun, fun h => absurd (hdue.symm.trans h) nofun,
      fun h => absurd (hdeferred.symm.trans h) (by decide),
      fun h => absurd (hran.symm.trans h) (by decide)⟩

theorem Timed.continues (h : e.Timed since delay now) (hc : Continues now (now + delay) e e')
    (hsince : since ≤ now) (hnow : now ≤ now') : e'.Timed since delay now' := by
  -- A due time is the one that was set before, or it is set now.
  have hdue : ∀ {d}, e'.due = some d → since + delay ≤ d ∧ d ≤ now + delay := by
    intro d hd
    cases he : e.due with
    | some d' =>
      obtain rfl : d' = d := Option.some.inj ((hc.due he).symm.trans hd)
      exact ⟨h.early he, h.late he⟩
    | none =>
      obtain ⟨-, rfl⟩ := hc.start he hd
      omega
  refine ⟨fun hd => (hdue hd).1, fun hd => ?_, fun hd => ?_, fun hr => ?_⟩
  · have := (hdue hd).2
    omega
  · exact hc.due (h.deferred (hc.deferred ▸ hd))
  · cases he : e.ran with
    | true =>
      obtain ⟨d, hd, hle⟩ := h.ran he
      exact ⟨d, hc.due hd, Nat.le_trans hle hnow⟩
    | false =>
      obtain ⟨d, hd, hle⟩ := hc.run he hr
      exact ⟨d, hd, Nat.le_trans hle hnow⟩

end Eviction

namespace Tracker

variable {σ : Type}

/-- Evictions are due when they should, if `since` knows since when each cell is disposable. -/
structure Timely (t : Tracker σ) (since : Nat → Option Nat) : Prop where
  kept : t.Kept
  known : ∀ i, (since i).isSome = t.disposableAt i
  past : ∀ {i m}, since i = some m → m ≤ t.now
  timed : ∀ {k : Nat} {e m}, t.evictions[k]? = some e → since e.cell = some m →
    Eviction.Timed m t.config.cleanupDelay.millis t.now e

/-- A step keeps the times of evictions right. -/
theorem Timely.pass {t t' : Tracker σ} {since : Nat → Option Nat} (h : t.Timely since)
    (hp : Passes t t') (hkept : t'.Kept) : t'.Timely fun i =>
      (since i).or (if t'.disposableAt i then some t'.now else none) where
  kept := hkept
  known i := by
    cases hs : since i with
    | some m =>
      have hd : t.disposableAt i = true := by rw [← h.known, hs]; rfl
      rw [hp.disposableAt hd]
      rfl
    | none =>
      show (if t'.disposableAt i then some t'.now else none : Option Nat).isSome = _
      cases t'.disposableAt i <;> rfl
  past {i m} hm := by
    cases hs : since i with
    | some m' =>
      obtain rfl : m' = m := by simpa [hs] using hm
      exact Nat.le_trans (h.past hs) hp.now
    | none =>
      simp only [hs, Option.none_or, Option.ite_none_right_eq_some, Option.some.injEq] at hm
      exact Nat.le_of_eq hm.2.symm
  timed {k e' m} hk' hm := by
    rw [hp.config]
    cases hk : t.evictions[k]? with
    | some e =>
      obtain ⟨e₁, hk₁, hc⟩ := hp.eviction hk
      obtain rfl : e₁ = e' := Option.some.inj (hk₁.symm.trans hk')
      -- The cell of a planned eviction is disposable already.
      obtain ⟨s, hs, hd⟩ := h.kept.disposable hk
      have hsome : (since e.cell).isSome = true := by
        rw [h.known]
        exact disposableAt_iff.2 ⟨s, hs, hd⟩
      obtain ⟨m', hm'⟩ := Option.isSome_iff_exists.1 hsome
      obtain rfl : m' = m := by simpa [hc.cell, hm'] using hm
      exact (h.timed hk hm').continues hc (h.past hm') hp.now
    | none =>
      have fresh : e'.Fresh (t'.now + t.config.cleanupDelay.millis) := hp.config ▸ hp.fresh hk hk'
      cases hs : since e'.cell with
      | none =>
        simp only [hs, Option.none_or, Option.ite_none_right_eq_some, Option.some.injEq] at hm
        exact hm.2 ▸ fresh.timed
      | some m' =>
        -- A cell that was disposable already has its eviction.
        have hd : t.disposableAt e'.cell = true := by rw [← h.known, hs]; rfl
        obtain ⟨s, hcell, hd⟩ := disposableAt_iff.1 hd
        have hpos : 0 < planned t.evictions e'.cell := by
          rw [(h.kept.cell hcell).planned, if_pos hd]
          decide
        obtain ⟨e, hmem, he⟩ := List.countP_pos_iff.1 hpos
        obtain ⟨j, hj⟩ := List.mem_iff_getElem?.1 hmem
        obtain ⟨e₁, hj₁, hc⟩ := hp.eviction hj
        have hjk := hkept.unique hj₁ hk' (hc.cell.trans (by simpa using he))
        rw [hjk, hk] at hj
        cases hj

section

variable [WatchSource σ]

theorem timely_new (config : TrackerConfig) (catalog : Catalog) (runtime : Bool) (source : σ) :
    (new config catalog runtime source).Timely
      ((new config catalog runtime source).disposableSince · []) where
  kept := kept_new config catalog runtime source
  known _ := rfl
  past h := by simp [disposableSince, disposableAt, new] at h
  timed h := by simp [new] at h

theorem timely_moves {t : Tracker σ} (h : t.Timely (t.disposableSince · []))
    (run : List (Move σ)) : (t.moves run).Timely (t.disposableSince · run) := by
  induction run using List.reverseRecOn with
  | nil => exact h
  | append_singleton run m ih =>
    have passed := ih.pass (Passes.of_move _ m) (ih.kept.move m)
    simp only [disposableSince_concat, moves_concat]
    exact passed

omit [WatchSource σ] in
/-- Polling an eviction starts its delay, and runs it once that is over. -/
theorem pollEviction_at {t : Tracker σ} {k : Nat} {e : Eviction} (hk : t.evictions[k]? = some e)
    (hdeferred : e.deferred = false) (hran : e.ran = false) :
    ∃ e', (t.pollEviction k).evictions[k]? = some e' ∧ e'.cell = e.cell ∧ e'.deferred = false ∧
      e'.due = some (e.due.getD t.cleanupTime) ∧
      (e.due.getD t.cleanupTime ≤ t.now → e'.ran = true) := by
  have hlt := (List.getElem?_eq_some_iff.1 hk).1
  simp only [pollEviction, hk, hdeferred, hran, Bool.or_self, Bool.false_eq_true, if_false]
  split
  · refine ⟨{ e with due := some (e.due.getD t.cleanupTime), ran := true }, ?_, rfl, hdeferred, rfl,
      fun _ => rfl⟩
    rw [runEviction, evict_eq]
    simp [hlt, hdeferred]
  · next hle =>
    exact ⟨{ e with due := some (e.due.getD t.cleanupTime) }, by simp [hlt, hdeferred, hran], rfl, hdeferred, rfl,
      fun h => absurd h hle⟩

/-- While moves are made, an eviction keeps its due time. -/
theorem waits_moves {t : Tracker σ} {k d : Nat} {e : Eviction} (hk : t.evictions[k]? = some e)
    (hdeferred : e.deferred = false) (hdue : e.due = some d) (run : List (Move σ)) :
    ∃ e', (t.moves run).evictions[k]? = some e' ∧ e'.cell = e.cell ∧ e'.deferred = false ∧
      e'.due = some d := by
  induction run generalizing t e with
  | nil => exact ⟨e, hk, rfl, hdeferred, hdue⟩
  | cons m run ih =>
    obtain ⟨e₁, hk₁, hc⟩ := (Passes.of_move t m).eviction hk
    obtain ⟨e', hk', hcell, hdeferred', hdue'⟩ :=
      ih hk₁ (hc.deferred.trans hdeferred) (hc.due hdue)
    exact ⟨e', hk', hcell.trans hc.cell, hdeferred', hdue'⟩

omit [WatchSource σ] in
theorem sweepEviction_at {t : Tracker σ} {k d : Nat} {e : Eviction} (hk : t.evictions[k]? = some e)
    (hdeferred : e.deferred = true) (hdue : e.due = some d) (hpast : d ≤ t.now) :
    (t.sweepEviction k).Forgotten e.cell := by
  have hlt := (List.getElem?_eq_some_iff.1 hk).1
  cases hran : e.ran with
  | true =>
    obtain ⟨e', hk', hc⟩ := (Expires.of_forgets (t.sweepEviction_forgets k)).eviction hk
    exact ⟨k, e', hk', hc.cell, hc.ran hran⟩
  | false =>
    refine ⟨k, { e with ran := true }, ?_, rfl, rfl⟩
    simp only [sweepEviction, hk, hdeferred, hran, hdue, Bool.not_false, Bool.and_self,
      Option.any_some, hpast, decide_true, if_true]
    rw [runEviction, evict_eq]
    simp [hlt, hdeferred, hdue]

omit [WatchSource σ] in
/-- Sweeping runs every deferred eviction that is due. -/
theorem forgotten_sweep {t : Tracker σ} {k d : Nat} {e : Eviction} (hk : t.evictions[k]? = some e)
    (hdeferred : e.deferred = true) (hdue : e.due = some d) (hpast : d ≤ t.now) :
    t.sweep.Forgotten e.cell := by
  have swept : ∀ (ks : List Nat) {t : Tracker σ} {e : Eviction}, k ∈ ks → t.evictions[k]? = some e →
      e.deferred = true → e.due = some d → d ≤ t.now →
      (ks.foldl sweepEviction t).Forgotten e.cell := by
    intro ks
    induction ks with
    | nil => intro _ _ hm; simp at hm
    | cons j ks ih =>
      intro t e hm hk hdeferred hdue hpast
      rw [List.foldl_cons]
      by_cases hj : k ∈ ks
      · have hx := Expires.of_forgets (t.sweepEviction_forgets j)
        obtain ⟨e', hk', hc⟩ := hx.eviction hk
        exact hc.cell ▸ ih hj hk' (hc.deferred.trans hdeferred) (hc.due hdue) (hx.now ▸ hpast)
      · obtain rfl : k = j := (List.mem_cons.1 hm).resolve_right hj
        exact (sweepEviction_at hk hdeferred hdue hpast).forgets (sweepEvictions_forgets _ ks)
  exact swept _ (List.mem_range.2 (List.getElem?_eq_some_iff.1 hk).1) hk hdeferred hdue hpast

/-! ## Every run -/

/-- What holds of evictions after a run from `start`, and of any further move. -/
structure EvictionsExact (start : Tracker σ) (run : List (Move σ)) : Prop where
  /-- Every cell ever made has one eviction if it is disposable, and none otherwise. -/
  once : ∀ {i : Nat} {s}, (start.moves run).cells[i]? = some s →
    planned (start.moves run).evictions i = if s.disposable then 1 else 0
  /-- A cell leaves the calls only when it is disposable and the delay is over since it became so. -/
  notEarly : ∀ (m : Move σ) {i : Nat}, (start.moves run).Holds i →
    ¬((start.moves run).move m).Holds i → (start.moves run).disposableAt i = true ∧
      ∃ since, start.disposableSince i run = some since ∧
        since + start.config.cleanupDelay.millis ≤ (start.moves run).now
  /-- The cells that leave the calls in a move are exactly those whose evictions run in it. -/
  directed : ∀ (m : Move σ) (i : Nat),
    ((start.moves run).Holds i ∧ ¬((start.moves run).move m).Holds i) ↔
      ∃ (k : Nat) (e e' : Eviction), (start.moves run).evictions[k]? = some e ∧ e.cell = i ∧
        e.ran = false ∧ ((start.moves run).move m).evictions[k]? = some e' ∧ e'.ran = true
  /-- Beside the caller, a cell is gone once its eviction was polled, which starts its timer, and
  polled again when the delay is over. -/
  fired : ∀ (first wait rest : List (Move σ)) (k : Nat) {e : Eviction},
    run = first ++ .step (.pollEviction k) :: wait ++ .step (.pollEviction k) :: rest →
    (start.moves first).evictions[k]? = some e → e.deferred = false →
    (start.moves first).now + start.config.cleanupDelay.millis ≤
      (start.moves (first ++ .step (.pollEviction k) :: wait)).now →
    ¬(start.moves run).Holds e.cell
  /-- Where the eviction was deferred, its cell is gone after any render once the delay is over. -/
  swept : ∀ (first rest : List (Move σ)) (call : ToolCall) (result : ToolResult) {k : Nat}
    {e : Eviction} {since : Nat}, run = first ++ .step (.render call result) :: rest →
    (start.moves first).evictions[k]? = some e → e.deferred = true →
    start.disposableSince e.cell first = some since →
    since + start.config.cleanupDelay.millis ≤ (start.moves first).now →
    ¬(start.moves run).Holds e.cell

/-- The timer of an eviction that was polled twice, the delay apart, has fired. -/
theorem Timely.fired {t : Tracker σ} {since : Nat → Option Nat} (h : t.Timely since) {k : Nat}
    {e : Eviction} (hk : t.evictions[k]? = some e) (hdeferred : e.deferred = false)
    (wait : List (Move σ))
    (hpast : t.now + t.config.cleanupDelay.millis ≤ ((t.pollEviction k).moves wait).now) :
    (((t.pollEviction k).moves wait).pollEviction k).Forgotten e.cell := by
  cases hran : e.ran with
  | true =>
    have hf : t.Forgotten e.cell := ⟨k, e, hk, rfl, hran⟩
    exact ((hf.forgets (t.pollEviction_forgets k)).moves wait).forgets (pollEviction_forgets _ k)
  | false =>
    obtain ⟨s, hs, hd⟩ := h.kept.disposable hk
    obtain ⟨m, hm⟩ := Option.isSome_iff_exists.1 ((h.known e.cell).trans (disposableAt_iff.2 ⟨s, hs, hd⟩))
    have hdue : e.due.getD t.cleanupTime ≤ t.now + t.config.cleanupDelay.millis := by
      cases hdue : e.due with
      | none => exact Nat.le_refl _
      | some d => exact (h.timed hk hm).late hdue
    obtain ⟨e₁, hk₁, hcell₁, hdeferred₁, hdue₁, -⟩ := pollEviction_at hk hdeferred hran
    -- While it waits, the eviction keeps its due time.
    obtain ⟨e₂, hk₂, hcell₂, hdeferred₂, hdue₂⟩ := waits_moves hk₁ hdeferred₁ hdue₁ wait
    cases hran₂ : e₂.ran with
    | true =>
      refine Forgotten.forgets ⟨k, e₂, hk₂, ?_, hran₂⟩ (pollEviction_forgets _ k)
      rw [hcell₂, hcell₁]
    | false =>
      obtain ⟨e₃, hk₃, hcell₃, -, -, hrun⟩ := pollEviction_at hk₂ hdeferred₂ hran₂
      refine ⟨k, e₃, hk₃, by rw [hcell₃, hcell₂, hcell₁], hrun ?_⟩
      rw [hdue₂, Option.getD_some]
      omega

/-- Evictions are exact in every run. -/
theorem evictions_exact (config : TrackerConfig) (catalog : Catalog) (runtime : Bool) (source : σ)
    (run : List (Move σ)) : EvictionsExact (new config catalog runtime source) run := by
  have timely := timely_moves (timely_new config catalog runtime source)
  have kept : ∀ run, ((new config catalog runtime source).moves run).Kept := fun run =>
    (timely run).kept
  refine ⟨fun hs => ((kept run).cell hs).planned, fun m i hi hi' => ?_, fun m i => ?_,
    fun first wait rest k e hrun hk hdeferred hpast => ?_,
    fun first rest call result k e since hrun hk hdeferred hsince hpast => ?_⟩
  · obtain ⟨k, e, e', hk, rfl, hran, hk', hran'⟩ :=
      ((Passes.of_move _ m).left_iff (kept run) ((kept run).move m) i).1 ⟨hi, hi'⟩
    obtain ⟨s, hs, hd⟩ := (kept run).disposable hk
    have hat := disposableAt_iff.2 ⟨s, hs, hd⟩
    obtain ⟨since, hsince⟩ := Option.isSome_iff_exists.1 (((timely run).known e.cell).trans hat)
    refine ⟨hat, since, hsince, ?_⟩
    obtain ⟨e₁, hk₁, hc⟩ := (Passes.of_move _ m).eviction hk
    obtain rfl : e₁ = e' := Option.some.inj (hk₁.symm.trans hk')
    obtain ⟨d, hd, hle⟩ := hc.run hran hran'
    have early := ((timely run).timed hk hsince).continues hc ((timely run).past hsince)
      (Nat.le_refl _)
    rw [config_moves] at early
    exact Nat.le_trans (early.early hd) hle
  · exact (Passes.of_move _ m).left_iff (kept run) ((kept run).move m) i
  · refine Forgotten.not_holds ?_ (kept run)
    rw [moves_append] at hpast
    rw [hrun, moves_append, moves_append]
    exact ((timely first).fired hk hdeferred wait (by rwa [config_moves])).moves rest
  · refine Forgotten.not_holds ?_ (kept run)
    have hdue := ((timely first).timed hk hsince).deferred hdeferred
    rw [config_moves] at hdue
    rw [hrun, moves_append]
    have swept := forgotten_sweep hk hdeferred hdue hpast
    exact (Passes.of_expires_ages (.refl _) (.of_changes (render_changes _ call result))).forgotten
      swept |>.moves rest

end

end Tracker

end TaskWatch
