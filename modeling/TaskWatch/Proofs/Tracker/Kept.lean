import TaskWatch.Proofs.Tracker.Books
import TaskWatch.Proofs.Tracker.Change

/-!
# Every change keeps the books in order

`Tracker.Kept` says that the books of a tracker are in order. A new tracker has empty books, and
each change of `Tracker.Change` is one of the changes of books of `Books`.
-/

namespace TaskWatch.Tracker

variable {σ : Type}

/-- The books of the tracker are in order. -/
abbrev Kept (t : Tracker σ) : Prop := Books t.calls t.watchers t.evictions t.cells

/-! ## Parts of a changed tracker -/

@[simp] theorem cell_evictionOf (t : Tracker σ) (i : Nat) : (t.evictionOf i).cell = i := by
  unfold evictionOf
  split <;> rfl

@[simp] theorem ran_evictionOf (t : Tracker σ) (i : Nat) : (t.evictionOf i).ran = false := by
  unfold evictionOf
  split <;> rfl

theorem scheduleIf_eq (t : Tracker σ) (claimed : Bool) (i : Nat) :
    t.scheduleIf claimed i = { t with
      evictions := if claimed then t.evictions ++ [t.evictionOf i] else t.evictions } := by
  cases claimed <;> rfl

/-- Forgetting a cell changes the calls and nothing else. -/
theorem evict_eq (t : Tracker σ) (i : Nat) : t.evict i = { t with calls := (t.evict i).calls } := by
  unfold evict
  split
  · split <;> rfl
  · rfl

theorem cellOf?_eq_some {t : Tracker σ} (h : (t.calls.map (·.1)).Nodup) {callId : String}
    {i : Nat} : t.cellOf? callId = some i ↔ (callId, i) ∈ t.calls := by
  rw [← find?_key h, cellOf?, Option.map_eq_some_iff]
  constructor
  · rintro ⟨⟨id, j⟩, hf, rfl⟩
    have : id = callId := by simpa using List.find?_some hf
    rw [hf, this]
  · exact fun hf => ⟨_, hf, rfl⟩

theorem cellOf?_eq_none {t : Tracker σ} {callId : String} :
    t.cellOf? callId = none ↔ callId ∉ t.calls.map (·.1) := by
  rw [← find?_key_eq_none, cellOf?, Option.map_eq_none_iff]

theorem ensureCell_of_some {t : Tracker σ} {callId : String} {i : Nat}
    (hi : t.cellOf? callId = some i) : t.ensureCell callId = (i, t) := by
  rw [ensureCell, hi]

theorem ensureCell_of_none {t : Tracker σ} {callId : String} (hi : t.cellOf? callId = none) :
    t.ensureCell callId = (t.cells.length, { t with
      cells := t.cells ++ [.new callId t.config.progressCapacity]
      calls := t.calls ++ [(callId, t.cells.length)] }) := by
  rw [ensureCell, hi]

variable [WatchSource σ]

theorem markDone_eq {t : Tracker σ} {i : Nat} {s : CallState} (hs : t.cells[i]? = some s) :
    t.markDone i = { t.withTokens (t.tokens.cancelAny s.token) with
      cells := t.cells.set i s.ended
      evictions := if !s.watching && !s.cleanupClaimed then t.evictions ++ [t.evictionOf i]
        else t.evictions } := by
  rw [markDone, hs]
  simp only [s.markDone_eq, scheduleIf_eq]
  rfl

theorem markDone_of_none {t : Tracker σ} {i : Nat} (hs : t.cells[i]? = none) :
    t.markDone i = t := by
  rw [markDone, hs]

omit [WatchSource σ] in
theorem finishWatcher_eq {t : Tracker σ} {w : Nat} {watcher : Watcher} {s : CallState}
    (hs : t.cells[watcher.cell]? = some s) :
    t.finishWatcher w watcher = { t with
      cells := t.cells.set watcher.cell s.unwatched
      watchers := t.watchers.set w { watcher with stage := .finished }
      evictions := if s.done && !s.cleanupClaimed
        then t.evictions ++ [t.evictionOf watcher.cell] else t.evictions } := by
  rw [finishWatcher, finishWatch, hs]
  simp only [s.finishWatch_eq, scheduleIf_eq]
  rfl

theorem cancelWatch_eq {t : Tracker σ} {i : Nat} {s : CallState} (hs : t.cells[i]? = some s) :
    t.cancelWatch i = { t.withTokens (t.tokens.cancelAny s.token) with
      cells := t.cells.set i s.tokenless } := by
  rw [cancelWatch, hs]
  rfl

theorem cancelWatch_of_none {t : Tracker σ} {i : Nat} (hs : t.cells[i]? = none) :
    t.cancelWatch i = t := by
  rw [cancelWatch, hs]

/-- What starting a watcher comes to: nothing, a new watcher, or the line that says that there is no
runtime for one. -/
theorem startWatcher_cases (t : Tracker σ) (i : Nat) :
    t.startWatcher i = t ∨ ∃ s id, t.closed = false ∧ t.cells[i]? = some s ∧ s.taskId = some id ∧
      s.done = false ∧ s.watching = false ∧
      (t.runtime = true ∧ t.startWatcher i = { t.withTokens t.tokens.issue with
          cells := t.cells.set i (s.watched t.tokens.next)
          watchers := t.watchers ++ [⟨i, id, t.tokens.next, .starting⟩] } ∨
        t.runtime = false ∧ t.startWatcher i = { t.withTokens t.tokens.issue with
          cells := t.cells.set i (s.appendLine noRuntimeLine).2.tokenless }) := by
  unfold startWatcher
  split
  · exact .inl rfl
  · next hclosed =>
    split
    · exact .inl rfl
    · next s hs =>
      split
      · exact .inl rfl
      · next id token s' tokens' hb =>
        obtain ⟨htask, hdone, hwatching, rfl, rfl, rfl⟩ := CallState.beginWatch_eq_some.1 hb
        refine .inr ⟨s, id, by simpa using hclosed, hs, htask, hdone, hwatching, ?_⟩
        dsimp only
        split
        · next hr => exact .inl ⟨hr, rfl⟩
        · next hr =>
          refine .inr ⟨eq_false_of_ne_true hr, ?_⟩
          have hlt := (List.getElem?_eq_some_iff.1 hs).1
          have hcell : ((t.setCell i (s.watched t.tokens.next)).withTokens t.tokens.issue).cells[i]? =
              some (s.watched t.tokens.next) := by
            simp [withTokens, setCell, hlt]
          rw [updateCell_eq hcell, finishWatch]
          simp only [setCell, withTokens, List.set_set, List.getElem?_set_self hlt]
          rw [CallState.finishWatch_appendLine hdone hwatching]
          rfl

/-! ## What a change leaves alone -/

theorem markDone_frame (t : Tracker σ) (i : Nat) : t.markDone i = { t with
    cells := (t.markDone i).cells
    evictions := (t.markDone i).evictions
    source := (t.markDone i).source } := by
  cases hs : t.cells[i]? with
  | none => rw [markDone_of_none hs]
  | some s => rw [markDone_eq hs]; rfl

theorem cancelWatch_frame (t : Tracker σ) (i : Nat) : t.cancelWatch i = { t with
    cells := (t.cancelWatch i).cells
    source := (t.cancelWatch i).source } := by
  cases hs : t.cells[i]? with
  | none => rw [cancelWatch_of_none hs]
  | some s => rw [cancelWatch_eq hs]; rfl

omit [WatchSource σ] in
theorem ensureCell_frame (t : Tracker σ) (callId : String) : (t.ensureCell callId).2 = { t with
    cells := (t.ensureCell callId).2.cells
    calls := (t.ensureCell callId).2.calls } := by
  cases hi : t.cellOf? callId with
  | some i => rw [ensureCell_of_some hi]
  | none => rw [ensureCell_of_none hi]

omit [WatchSource σ] in
theorem finishWatcher_frame (t : Tracker σ) (w : Nat) (v : Watcher) : t.finishWatcher w v = { t with
    cells := (t.finishWatcher w v).cells
    watchers := t.watchers.set w { v with stage := .finished }
    evictions := (t.finishWatcher w v).evictions } := by
  cases hs : t.cells[v.cell]? with
  | none => rw [finishWatcher, finishWatch, hs]
  | some s => rw [finishWatcher_eq hs]

omit [WatchSource σ] in
theorem Forgets.frame {t t' : Tracker σ} (h : Forgets t t') :
    t' = { t with calls := t'.calls, evictions := t'.evictions } := by
  induction h with
  | refl => rfl
  | tail _ hf ih =>
    cases hf with
    | startDelay => rw [ih]
    | run =>
      rw [runEviction, evict_eq, ih]

/-- What a change does to the list of watchers. -/
theorem Change.watchers {actor : Option Nat} {t t' : Tracker σ} (h : Change actor t t') :
    t'.watchers = t.watchers ∨
      (∃ w v stage, t.watchers[w]? = some v ∧ v.stage ≠ .finished ∧
        (stage = .finished ∨
          ∃ j, (WatchSource.openWatch t.source v.taskId v.token).1 = .ok j) ∧
        t'.watchers = t.watchers.set w { v with stage := stage }) ∨
      ∃ i s id, t.closed = false ∧ t.runtime = true ∧ t.cells[i]? = some s ∧ s.done = false ∧
        t'.watchers = t.watchers ++ [⟨i, id, t.tokens.next, .starting⟩] := by
  cases h with
  | learn | failStream | takeEvents | close | runtime => exact .inl rfl
  | create =>
    rw [ensureCell_frame]
    exact .inl rfl
  | markDone _ i => exact .inl (watchers_markDone t i)
  | endCall => exact .inl (watchers_markDone t _)
  | cancelWatch _ i =>
    rw [cancelWatch_frame]
    exact .inl rfl
  | startWatcher _ i =>
    obtain e | ⟨s, id, hclosed, hs, -, hdone, -, ⟨hruntime, e⟩ | ⟨-, e⟩⟩ := t.startWatcher_cases i
    · exact .inl (by rw [e])
    · exact .inr (.inr ⟨i, s, id, hclosed, hruntime, hs, hdone, by rw [e]⟩)
    · exact .inl (by rw [e]; rfl)
  | openStream hw hstage hopen =>
    exact .inr (.inl ⟨_, _, _, hw, by rw [hstage]; nofun, .inr ⟨_, congrArg Prod.fst hopen⟩, rfl⟩)
  | giveUp hw hstage =>
    rw [finishWatcher_frame]
    exact .inr (.inl ⟨_, _, _, hw, by rw [hstage]; nofun, .inl rfl, rfl⟩)
  | release hw hstage =>
    rw [finishWatcher_frame]
    exact .inr (.inl ⟨_, _, _, hw, by rw [hstage]; nofun, .inl rfl, rfl⟩)

/-- A tracker that was shut down stays so. -/
theorem Change.closed {actor : Option Nat} {t t' : Tracker σ} (h : Change actor t t')
    (hclosed : t.closed = true) : t'.closed = true := by
  cases h with
  | learn | openStream | failStream | takeEvents | runtime => exact hclosed
  | close => rfl
  | create =>
    rw [ensureCell_frame]
    exact hclosed
  | markDone _ i =>
    rw [markDone_frame]
    exact hclosed
  | endCall =>
    rw [markDone_frame]
    exact hclosed
  | cancelWatch _ i =>
    rw [cancelWatch_frame]
    exact hclosed
  | startWatcher _ i =>
    rw [Tracker.startWatcher, if_pos hclosed]
    exact hclosed
  | giveUp =>
    rw [finishWatcher_frame]
    exact hclosed
  | release =>
    rw [finishWatcher_frame]
    exact hclosed

/-- The labels of the catalog are given once and for all. -/
theorem Change.catalog {actor : Option Nat} {t t' : Tracker σ} (h : Change actor t t') :
    t'.catalog = t.catalog := by
  cases h with
  | learn | openStream | failStream | takeEvents | close | runtime => rfl
  | create => rw [ensureCell_frame]
  | markDone | endCall => rw [markDone_frame]
  | cancelWatch => rw [cancelWatch_frame]
  | startWatcher _ i =>
    obtain e | ⟨s, id, -, -, -, -, -, ⟨-, e⟩ | ⟨-, e⟩⟩ := t.startWatcher_cases i
    · rw [e]
    · rw [e]
      rfl
    · rw [e]
      rfl
  | giveUp | release => rw [finishWatcher_frame]

/-! ## What becomes of a cell -/

omit [WatchSource σ] in
/-- One cell has changed. -/
theorem exists_becomes {cells : List CallState} {next : Token} {i j : Nat} {s₁ s₂ s' : CallState}
    (hj : cells[j]? = some s₁) (h : s₁.Becomes next s₂) (hs' : (cells.set j s₂)[i]? = some s') :
    ∃ s, cells[i]? = some s ∧ s.Becomes next s' := by
  by_cases hij : j = i
  · subst hij
    rw [List.getElem?_set_self (List.getElem?_eq_some_iff.1 hj).1] at hs'
    exact ⟨s₁, hj, Option.some.inj hs' ▸ h⟩
  · rw [List.getElem?_set_ne hij] at hs'
    exact ⟨s', hs', .learns (.refl s')⟩

/-- Every cell was there before the change, or is new. -/
theorem Change.cell {actor : Option Nat} {t t' : Tracker σ} (h : Change actor t t') {i : Nat}
    {s' : CallState} (hs' : t'.cells[i]? = some s') :
    (∃ s, t.cells[i]? = some s ∧ s.Becomes t.tokens.next s') ∨
      ∃ callId capacity, s' = .new callId capacity := by
  have same : t.cells[i]? = some s' → ∃ s, t.cells[i]? = some s ∧ s.Becomes t.tokens.next s' :=
    fun hs => ⟨s', hs, .learns (.refl s')⟩
  have marked : ∀ {j : Nat}, (t.markDone j).cells[i]? = some s' →
      ∃ s, t.cells[i]? = some s ∧ s.Becomes t.tokens.next s' := by
    intro j hs
    cases hj : t.cells[j]? with
    | none =>
      rw [markDone_of_none hj] at hs
      exact same hs
    | some s =>
      rw [markDone_eq hj] at hs
      exact exists_becomes hj .ended hs
  have finished : ∀ {source : σ} {w : Nat} {v : Watcher},
      (({ t with source := source } : Tracker σ).finishWatcher w v).cells[i]? = some s' →
      ∃ s, t.cells[i]? = some s ∧ s.Becomes t.tokens.next s' := by
    intro source w v hs
    cases hj : t.cells[v.cell]? with
    | none =>
      rw [finishWatcher, finishWatch, show ({ t with source := source } : Tracker σ).cells[v.cell]? =
        none from hj] at hs
      exact same hs
    | some s =>
      rw [finishWatcher_eq (t := { t with source := source }) hj] at hs
      exact exists_becomes hj .unwatched hs
  cases h with
  | openStream | failStream | takeEvents | close | runtime => exact .inl (same hs')
  | learn hs hl => exact .inl (exists_becomes hs (.learns hl) hs')
  | create hid =>
    rw [ensureCell_of_none hid] at hs'
    dsimp only at hs'
    rw [List.getElem?_append] at hs'
    split at hs'
    · exact .inl (same hs')
    · exact .inr ⟨_, _, List.mem_singleton.1 (List.mem_of_getElem? hs')⟩
  | markDone | endCall => exact .inl (marked hs')
  | cancelWatch _ j =>
    cases hj : t.cells[j]? with
    | none =>
      rw [cancelWatch_of_none hj] at hs'
      exact .inl (same hs')
    | some s =>
      rw [cancelWatch_eq hj] at hs'
      exact .inl (exists_becomes hj (.tokenless (.refl s)) hs')
  | startWatcher _ j =>
    obtain e | ⟨s, id, -, hj, -, -, -, ⟨-, e⟩ | ⟨-, e⟩⟩ := t.startWatcher_cases j
    · rw [e] at hs'
      exact .inl (same hs')
    · rw [e] at hs'
      exact .inl (exists_becomes hj .watched hs')
    · rw [e] at hs'
      exact .inl (exists_becomes hj (.tokenless (.appendLine s _)) hs')
  | giveUp => exact .inl (finished hs')
  | release => exact .inl (finished hs')

/-! ## Keeping the books -/

omit [WatchSource σ] in
theorem kept_new (config : TrackerConfig) (catalog : Catalog) (runtime : Bool) (source : σ) :
    (new config catalog runtime source).Kept := Books.empty

namespace Kept

variable {t : Tracker σ}

theorem markDone (h : t.Kept) (i : Nat) : (t.markDone i).Kept := by
  cases hs : t.cells[i]? with
  | none => rwa [markDone_of_none hs]
  | some s =>
    have kept := h.cell hs
    have hclaimed := kept.claimed
    have hplan : (s.ended.disposable && !s.disposable) = (!s.watching && !s.cleanupClaimed) := by
      rw [CallState.disposable_ended, hclaimed]
    rw [markDone_eq hs, ← hplan]
    refine h.change hs (rfl : s.ended.callId = s.callId) (fun _ h => h) rfl ?_ (fun _ => rfl) ?_
      kept.watched (fun _ _ => rfl) (fun _ hw => .inl hw) (cell_evictionOf t i) (ran_evictionOf t i)
    · rw [CallState.disposable_ended, CallState.ended, hclaimed, CallState.disposable]
      cases s.watching <;> simp
    · rw [CallState.disposable_ended, CallState.disposable]
      cases s.watching <;> simp

theorem cancelWatch (h : t.Kept) (i : Nat) : (t.cancelWatch i).Kept := by
  cases hs : t.cells[i]? with
  | none => rwa [cancelWatch_of_none hs]
  | some s =>
    rw [cancelWatch_eq hs]
    exact h.update hs rfl (fun _ h => h) rfl rfl (fun _ => rfl) rfl (h.cell hs).watched
      (fun _ _ => rfl) (fun _ hw => .inl hw)

omit [WatchSource σ] in
/-- A watcher that has not finished yet finishes. -/
theorem finishWatcher (h : t.Kept) {w : Nat} {watcher : Watcher}
    (hw : t.watchers[w]? = some watcher) (hstage : watcher.stage ≠ .finished) :
    (t.finishWatcher w watcher).Kept := by
  obtain ⟨hlt, hget⟩ := List.getElem?_eq_some_iff.1 hw
  have hmem : watcher ∈ t.watchers := hget ▸ List.getElem_mem hlt
  obtain ⟨s, hs, -⟩ := h.watcher watcher hmem
  have kept := h.cell hs
  have hcount : ∀ j, unfinished (t.watchers.set w { watcher with stage := .finished }) j =
      unfinished t.watchers j - if watcher.cell = j then 1 else 0 := fun j => by
    rw [unfinished, unfinished, List.countP_set hlt, hget]
    simp [hstage]
  have hpos : 0 < unfinished t.watchers watcher.cell :=
    List.countP_pos_iff.2 ⟨watcher, hmem, by simp [hstage]⟩
  have hwatching : s.watching = true := by
    rw [kept.watched] at hpos
    cases hc : s.watching with
    | true => rfl
    | false => rw [hc] at hpos; exact absurd hpos (by decide)
  have hplan : (s.unwatched.disposable && !s.disposable) = (s.done && !s.cleanupClaimed) := by
    rw [CallState.disposable_unwatched, kept.claimed]
  rw [finishWatcher_eq hs, ← hplan]
  refine h.change hs (rfl : s.unwatched.callId = s.callId) (fun _ h => h) rfl ?_ (fun _ => rfl) ?_ ?_
    (fun j hj => ?_) (fun u hu => ?_) (cell_evictionOf t _) (ran_evictionOf t _)
  · rw [CallState.disposable_unwatched, CallState.unwatched, kept.claimed, CallState.disposable,
      hwatching]
    cases s.done <;> rfl
  · rw [CallState.disposable, hwatching]
    simp
  · rw [hcount, kept.watched, hwatching]
    simp [CallState.unwatched]
  · rw [hcount, if_neg (Ne.symm hj), Nat.sub_zero]
  · rcases List.mem_or_eq_of_mem_set hu with hm | rfl
    · exact .inl hm
    · exact .inr ⟨rfl, fun hf => absurd rfl hf⟩

theorem startWatcher (h : t.Kept) (i : Nat) : (t.startWatcher i).Kept := by
  rcases t.startWatcher_cases i with e | ⟨s, id, -, hs, htask, hdone, hwatching, hcase⟩
  · rwa [e]
  have kept := h.cell hs
  rcases hcase with ⟨-, e⟩ | ⟨-, e⟩
  · rw [e]
    refine h.update hs (rfl : (s.watched t.tokens.next).callId = s.callId) (fun _ h => h) rfl rfl
      nofun ?_ ?_ (fun j hj => ?_) (fun u hu => ?_)
    · simp [CallState.disposable, CallState.watched, hdone]
    · have := kept.watched
      rw [hwatching] at this
      simp_all [unfinished, CallState.watched]
    · simp [unfinished, Ne.symm hj]
    · rcases List.mem_append.1 hu with hm | hm
      · exact .inl hm
      · rw [List.mem_singleton.1 hm]
        exact .inr ⟨rfl, fun _ => htask⟩
  · rw [e]
    have hl := CallState.Learns.appendLine s noRuntimeLine
    refine h.update hs hl.callId hl.taskId hl.capacity hl.cleanupClaimed (fun _ => rfl) hl.disposable
      ?_ (fun _ _ => rfl) (fun _ hw => .inl hw)
    rw [CallState.tokenless, hl.watching]
    exact kept.watched

omit [WatchSource σ] in
/-- An eviction that runs forgets its cell. -/
theorem runEviction_eq (h : t.Kept) {k : Nat} {e : Eviction} (hk : t.evictions[k]? = some e)
    (hran : e.ran = false) : ∃ s, t.cells[e.cell]? = some s ∧ s.disposable = true ∧
      (s.callId, e.cell) ∈ t.calls ∧ t.runEviction k e = { t with
        calls := t.calls.filter (·.1 != s.callId)
        evictions := t.evictions.set k { e with ran := true } } := by
  obtain ⟨s, hs, hd, hm⟩ := h.pending hk hran
  refine ⟨s, hs, hd, hm, ?_⟩
  have hcur : t.cellOf? s.callId = some e.cell := (cellOf?_eq_some h.keys).2 hm
  unfold Tracker.runEviction evict
  simp only [hs]
  rw [if_pos]
  rw [Bool.and_eq_true, decide_eq_true_eq]
  exact ⟨hcur, hd⟩

omit [WatchSource σ] in
theorem runEviction (h : t.Kept) {k : Nat} {e : Eviction} (hk : t.evictions[k]? = some e)
    (hran : e.ran = false) : (t.runEviction k e).Kept := by
  obtain ⟨s, hs, -, -, he⟩ := h.runEviction_eq hk hran
  rw [he]
  exact h.evict hk hran rfl rfl hs

omit [WatchSource σ] in
theorem create (h : t.Kept) {callId : String} (hid : t.cellOf? callId = none) :
    (t.ensureCell callId).2.Kept := by
  rw [ensureCell_of_none hid]
  exact Books.create h (cellOf?_eq_none.1 hid) rfl (Nat.le_max_right _ _) rfl rfl rfl rfl

/-- Every change keeps the books in order. -/
theorem change {t t' : Tracker σ} {actor : Option Nat} (h : t.Kept) (hc : Change actor t t') :
    t'.Kept := by
  cases hc with
  | learn hs hl => exact h.learn hs hl
  | create hid => exact h.create hid
  | markDone _ i => exact h.markDone i
  | cancelWatch _ i => exact h.cancelWatch i
  | startWatcher _ i => exact h.startWatcher i
  | openStream hw hstage _ =>
    exact h.restage hw (by rw [hstage]; nofun) nofun rfl rfl
  | failStream => exact h
  | giveUp hw hstage => exact h.finishWatcher hw (by rw [hstage]; nofun)
  | takeEvents => exact h
  | endCall => exact h.markDone _
  | @release _ w watcher stream hw hstage =>
    exact finishWatcher (t := { t with source := WatchSource.release t.source stream }) h hw
      (by rw [hstage]; nofun)
  | close => exact h
  | runtime => exact h

theorem changes {t t' : Tracker σ} {actor : Option Nat} (h : t.Kept) (hc : Changes actor t t') :
    t'.Kept := by
  induction hc with
  | refl => exact h
  | tail _ hc ih => exact ih.change hc

omit [WatchSource σ] in
theorem forgets {t t' : Tracker σ} (h : t.Kept) (hf : Forgets t t') : t'.Kept := by
  induction hf with
  | refl => exact h
  | tail _ hf ih =>
    cases hf with
    | startDelay hk => exact ih.restart hk rfl rfl
    | run hk hran => exact ih.runEviction hk hran

theorem step (h : t.Kept) (s : TrackerStep) : (t.step s).Kept := by
  obtain ⟨u, hf, hc⟩ | ⟨millis, rfl⟩ := t.step_cases s
  · exact (h.forgets hf).changes hc
  · exact h

end Kept

end TaskWatch.Tracker
