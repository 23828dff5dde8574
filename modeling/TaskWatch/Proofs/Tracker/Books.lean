import TaskWatch.Proofs.Call.Watch
import TaskWatch.Proofs.Entries
import TaskWatch.Tracker.Basic

/-!
# The books of a tracker

A tracker keeps four lists: its cells, the current cell of each call, the watchers, and the
evictions. `Books` says how they hang together: the flags of every cell ever made agree with the
number of its unfinished watchers and of its evictions, and a cell is current until its eviction has
run. Whatever a tracker does comes down to a few changes of the books, and each of them leaves the
books in order:

* `Books.create`: a new cell;
* `Books.change`: a new state of one cell, with its watchers, and with an eviction if the cell has
  become disposable;
* `Books.evict`: the run of an eviction;
* `Books.restage`: a watcher that goes on without finishing.
-/

namespace TaskWatch

/-- How many watchers of a cell have not finished. -/
def unfinished (watchers : List Watcher) (i : Nat) : Nat :=
  watchers.countP fun w => w.cell == i && w.stage != .finished

/-- How many evictions of a cell were planned. -/
def planned (evictions : List Eviction) (i : Nat) : Nat :=
  evictions.countP (·.cell == i)

section

variable (calls : List (String × Nat)) (watchers : List Watcher) (evictions : List Eviction)

/-- What the books say of a cell in a state. -/
structure CellKept (i : Nat) (s : CallState) : Prop where
  capacity : 1 ≤ s.capacity
  claimed : s.cleanupClaimed = s.disposable
  idle : s.watching = false → s.token = none
  watched : unfinished watchers i = if s.watching then 1 else 0
  planned : planned evictions i = if s.disposable then 1 else 0
  /-- The cell is current until its eviction has run. -/
  current : i ∈ calls.map (·.2) ↔ ∀ e ∈ evictions, e.cell = i → e.ran = false

/-- The books are in order. -/
structure Books (cells : List CallState) : Prop where
  cell : ∀ {i s}, cells[i]? = some s → CellKept calls watchers evictions i s
  entry : ∀ {id i}, (id, i) ∈ calls → ∃ s, cells[i]? = some s ∧ s.callId = id
  keys : (calls.map (·.1)).Nodup
  watcher : ∀ w ∈ watchers, ∃ s, cells[w.cell]? = some s ∧
    (w.stage ≠ .finished → s.taskId = some w.taskId)
  eviction : ∀ e ∈ evictions, e.cell < cells.length

end

variable {calls : List (String × Nat)} {watchers watchers' : List Watcher}
  {evictions : List Eviction} {cells : List CallState} {i : Nat} {s s' : CallState}

namespace Books

theorem empty : Books [] [] [] [] where
  cell h := by simp at h
  entry h := by simp at h
  keys := List.nodup_nil
  watcher w h := by simp at h
  eviction e h := by simp at h

/-! ## Cells -/

/-- A new cell has no watchers and no evictions. -/
theorem create (h : Books calls watchers evictions cells) {id : String}
    (hid : id ∉ calls.map (·.1)) (hs : s.callId = id) (hcap : 1 ≤ s.capacity)
    (hc : s.cleanupClaimed = false) (hd : s.done = false) (hw : s.watching = false)
    (ht : s.token = none) :
    Books (calls ++ [(id, cells.length)]) watchers evictions (cells ++ [s]) := by
  have unplanned : ∀ e ∈ evictions, e.cell ≠ cells.length := fun e he =>
    Nat.ne_of_lt (h.eviction e he)
  have unwatched : ∀ w ∈ watchers, w.cell ≠ cells.length := fun w hw => by
    obtain ⟨s, hs, -⟩ := h.watcher w hw
    exact Nat.ne_of_lt (List.getElem?_eq_some_iff.1 hs).1
  refine ⟨fun {i s'} hi => ?_, fun {id' i} hm => ?_, ?_, fun w hw => ?_, fun e he => ?_⟩
  · rcases Nat.lt_or_ge i cells.length with hlt | hge
    · have kept := h.cell (List.getElem?_append_left hlt ▸ hi)
      refine { kept with current := ?_ }
      rw [← kept.current]
      simp [Nat.ne_of_lt hlt]
    · obtain rfl : i = cells.length := by
        have := (List.getElem?_eq_some_iff.1 hi).1
        simp only [List.length_append, List.length_singleton] at this
        omega
      obtain rfl : s = s' := by simpa using hi
      have nothing : s.disposable = false := by rw [CallState.disposable, hd]; rfl
      refine ⟨hcap, hc.trans nothing.symm, fun _ => ht, ?_, ?_, ?_⟩
      · rw [hw, unfinished, List.countP_eq_zero.2]
        · rfl
        · exact fun w hw' => by simp [unwatched w hw']
      · rw [nothing, TaskWatch.planned, List.countP_eq_zero.2]
        · rfl
        · exact fun e he => by simpa using unplanned e he
      · simpa using fun e he hcell => absurd hcell (unplanned e he)
  · rcases List.mem_append.1 hm with hm | hm
    · obtain ⟨s', hs', e⟩ := h.entry hm
      exact ⟨s', by rw [List.getElem?_append_left (List.getElem?_eq_some_iff.1 hs').1, hs'], e⟩
    · obtain ⟨rfl, rfl⟩ := Prod.mk.inj (List.mem_singleton.1 hm)
      exact ⟨s, by simp, hs⟩
  · rw [List.map_append, List.nodup_append]
    exact ⟨h.keys, by simp, fun a ha b hb e => hid (by simp_all)⟩
  · obtain ⟨s', hs', e⟩ := h.watcher w hw
    exact ⟨s', by rw [List.getElem?_append_left (List.getElem?_eq_some_iff.1 hs').1, hs'], e⟩
  · have := h.eviction e he
    simp only [List.length_append, List.length_singleton]
    omega

/-- A cell passes into a new state, its watchers may change, and if it becomes disposable an eviction
of it is planned. -/
theorem change (h : Books calls watchers evictions cells) (hi : cells[i]? = some s)
    (hid : s'.callId = s.callId) (htask : ∀ id, s.taskId = some id → s'.taskId = some id)
    (hcap : s'.capacity = s.capacity) (hclaimed : s'.cleanupClaimed = s'.disposable)
    (hidle : s'.watching = false → s'.token = none) (hmono : s.disposable → s'.disposable)
    (hwatched : unfinished watchers' i = if s'.watching then 1 else 0)
    (hothers : ∀ j ≠ i, unfinished watchers' j = unfinished watchers j)
    (hwatcher : ∀ w ∈ watchers', w ∈ watchers ∨ w.cell = i ∧
      (w.stage ≠ .finished → s'.taskId = some w.taskId))
    {e : Eviction} (he : e.cell = i) (hran : e.ran = false) :
    Books calls watchers'
      (if s'.disposable && !s.disposable then evictions ++ [e] else evictions)
      (cells.set i s') := by
  have hlt := (List.getElem?_eq_some_iff.1 hi).1
  have kept := h.cell hi
  refine ⟨fun {j s₁} hj => ?_, fun {id j} hm => ?_, h.keys, fun w hw => ?_, fun e' he' => ?_⟩
  · by_cases hji : j = i
    · subst hji
      obtain rfl : s' = s₁ := by simpa [hlt] using hj
      refine ⟨hcap ▸ kept.capacity, hclaimed, hidle, hwatched, ?_, ?_⟩
      · have hp := kept.planned
        cases hd : s.disposable <;> cases hd' : s'.disposable <;>
          simp_all [TaskWatch.planned]
      · rw [kept.current]
        split
        · simp [or_imp, forall_and, hran]
        · exact Iff.rfl
    · have kept := h.cell ((List.getElem?_set_ne (Ne.symm hji)).symm.trans hj)
      have hne : e.cell ≠ j := fun e' => hji (e'.symm.trans he)
      refine { kept with
        watched := (hothers j hji).trans kept.watched, planned := ?_, current := ?_ }
      · rw [← kept.planned]
        split
        · simp [TaskWatch.planned, hne]
        · rfl
      · rw [kept.current]
        split
        · simp [or_imp, forall_and, hne]
        · exact Iff.rfl
  · obtain ⟨s₁, hs₁, e₁⟩ := h.entry hm
    by_cases hji : j = i
    · subst hji
      obtain rfl : s = s₁ := Option.some.inj (hi.symm.trans hs₁)
      exact ⟨s', by simp [hlt], hid.trans e₁⟩
    · exact ⟨s₁, (List.getElem?_set_ne (Ne.symm hji)).trans hs₁, e₁⟩
  · rcases hwatcher w hw with hm | ⟨hcell, htask'⟩
    · obtain ⟨s₁, hs₁, e₁⟩ := h.watcher w hm
      by_cases hji : w.cell = i
      · obtain rfl : s = s₁ := Option.some.inj (hi.symm.trans (hji ▸ hs₁))
        exact ⟨s', by simp [hji, hlt], fun hf => htask _ (e₁ hf)⟩
      · exact ⟨s₁, (List.getElem?_set_ne (Ne.symm hji)).trans hs₁, e₁⟩
    · exact ⟨s', by simp [hcell, hlt], htask'⟩
  · rw [List.length_set]
    split at he'
    · rcases List.mem_append.1 he' with hm | hm
      · exact h.eviction e' hm
      · rw [List.mem_singleton.1 hm, he]; exact hlt
    · exact h.eviction e' he'

/-- A cell passes into a new state that is as disposable as before. -/
theorem update (h : Books calls watchers evictions cells) (hi : cells[i]? = some s)
    (hid : s'.callId = s.callId) (htask : ∀ id, s.taskId = some id → s'.taskId = some id)
    (hcap : s'.capacity = s.capacity) (hclaimed : s'.cleanupClaimed = s.cleanupClaimed)
    (hidle : s'.watching = false → s'.token = none) (hsame : s'.disposable = s.disposable)
    (hwatched : unfinished watchers' i = if s'.watching then 1 else 0)
    (hothers : ∀ j ≠ i, unfinished watchers' j = unfinished watchers j)
    (hwatcher : ∀ w ∈ watchers', w ∈ watchers ∨ w.cell = i ∧
      (w.stage ≠ .finished → s'.taskId = some w.taskId)) :
    Books calls watchers' evictions (cells.set i s') := by
  have := h.change (e := ⟨i, false, none, false⟩) hi hid htask hcap
    (by rw [hclaimed, hsame, (h.cell hi).claimed]) hidle (by rw [hsame]; exact id) hwatched hothers
    hwatcher rfl rfl
  simpa [hsame] using this

/-- A cell about which something was learnt. -/
theorem learn (h : Books calls watchers evictions cells) (hi : cells[i]? = some s)
    (hl : s.Learns s') : Books calls watchers evictions (cells.set i s') := by
  have kept := h.cell hi
  exact h.update hi hl.callId hl.taskId hl.capacity hl.cleanupClaimed
    (by rw [hl.watching, hl.token]; exact kept.idle) hl.disposable
    (by rw [hl.watching]; exact kept.watched) (fun _ _ => rfl) (fun _ hw => .inl hw)

/-! ## Watchers -/

/-- A watcher that goes on without finishing. -/
theorem restage (h : Books calls watchers evictions cells) {w : Nat} {v v' : Watcher}
    (hw : watchers[w]? = some v) (hv : v.stage ≠ .finished) (hv' : v'.stage ≠ .finished)
    (hcell : v'.cell = v.cell) (htask : v'.taskId = v.taskId) :
    Books calls (watchers.set w v') evictions cells := by
  obtain ⟨hlt, hget⟩ := List.getElem?_eq_some_iff.1 hw
  refine ⟨fun {i s} hi => ?_, h.entry, h.keys, fun u hu => ?_, h.eviction⟩
  · have kept := h.cell hi
    refine { kept with watched := ?_ }
    rw [← kept.watched, unfinished, unfinished, List.countP_set hlt, hget]
    have hpos : v.cell = i → 0 < watchers.countP fun w => w.cell == i && w.stage != .finished :=
      fun e => List.countP_pos_iff.2 ⟨v, hget ▸ List.getElem_mem hlt, by simp [e, hv]⟩
    by_cases e : v.cell = i
    · have := hpos e
      simp only [hcell, e, beq_self_eq_true, bne_iff_ne, ne_eq, hv, hv', not_false_eq_true,
        if_true, Bool.true_and]
      omega
    · simp [hcell, e]
  · rcases List.mem_or_eq_of_mem_set hu with hm | rfl
    · exact h.watcher u hm
    · obtain ⟨s, hs, e⟩ := h.watcher v (hget ▸ List.getElem_mem hlt)
      exact ⟨s, hcell ▸ hs, fun _ => htask ▸ e hv⟩

/-! ## Evictions -/

theorem planned_set {k : Nat} {e e' : Eviction} (hk : evictions[k]? = some e)
    (hcell : e'.cell = e.cell) (i : Nat) :
    planned (evictions.set k e') i = planned evictions i := by
  obtain ⟨hlt, hget⟩ := List.getElem?_eq_some_iff.1 hk
  have hpos : e.cell = i → 0 < evictions.countP (·.cell == i) := fun h =>
    List.countP_pos_iff.2 ⟨e, hget ▸ List.getElem_mem hlt, by simpa using h⟩
  rw [planned, planned, List.countP_set hlt, hget, hcell]
  by_cases h : e.cell = i
  · have := hpos h
    simp only [h, beq_self_eq_true, if_true]
    omega
  · simp [h]

/-- An eviction whose delay starts. -/
theorem restart (h : Books calls watchers evictions cells) {k : Nat} {e e' : Eviction}
    (hk : evictions[k]? = some e) (hcell : e'.cell = e.cell) (hran : e'.ran = e.ran) :
    Books calls watchers (evictions.set k e') cells := by
  obtain ⟨hlt, hget⟩ := List.getElem?_eq_some_iff.1 hk
  refine ⟨fun {i s} hi => ?_, h.entry, h.keys, h.watcher, fun e₁ he₁ => ?_⟩
  · have kept := h.cell hi
    refine { kept with planned := (planned_set hk hcell i).trans kept.planned, current := ?_ }
    rw [kept.current]
    constructor
    · intro hall e₁ he₁ hi₁
      rcases List.mem_or_eq_of_mem_set he₁ with hm | rfl
      · exact hall e₁ hm hi₁
      · rw [hran]
        exact hall e (hget ▸ List.getElem_mem hlt) (hcell ▸ hi₁)
    · intro hall e₁ he₁ hi₁
      obtain ⟨k', hk'⟩ := List.mem_iff_getElem?.1 he₁
      by_cases e₂ : k = k'
      · subst e₂
        obtain rfl : e = e₁ := Option.some.inj (hk.symm.trans hk')
        rw [← hran]
        exact hall e' (List.mem_iff_getElem?.2 ⟨k, by simp [hlt]⟩) (hcell.trans hi₁)
      · exact hall e₁ (List.mem_iff_getElem?.2 ⟨k', by simp [e₂, hk']⟩) hi₁
  · rcases List.mem_or_eq_of_mem_set he₁ with hm | rfl
    · exact h.eviction e₁ hm
    · exact hcell ▸ h.eviction e (hget ▸ List.getElem_mem hlt)

/-- A cell has one eviction at most. -/
theorem unique (h : Books calls watchers evictions cells) {k k' : Nat} {e e' : Eviction}
    (hk : evictions[k]? = some e) (hk' : evictions[k']? = some e') (hcell : e.cell = e'.cell) :
    k = k' := by
  have kept := h.cell (List.getElem?_eq_getElem (h.eviction e (List.mem_of_getElem? hk)))
  refine getElem?_inj_of_countP (p := (·.cell == e.cell)) ?_ hk hk' (by simp) (by simp [hcell])
  show planned evictions e.cell ≤ 1
  rw [kept.planned]
  split <;> omega

/-- The cell of an eviction is disposable. -/
theorem disposable (h : Books calls watchers evictions cells) {k : Nat} {e : Eviction}
    (hk : evictions[k]? = some e) : ∃ s, cells[e.cell]? = some s ∧ s.disposable = true := by
  have hm := List.mem_of_getElem? hk
  have hs := List.getElem?_eq_getElem (h.eviction e hm)
  have hpos : 0 < planned evictions e.cell := List.countP_pos_iff.2 ⟨e, hm, by simp⟩
  refine ⟨_, hs, ?_⟩
  by_contra hd
  rw [(h.cell hs).planned, if_neg hd] at hpos
  omega

/-- The cell of an eviction that has not run is disposable and current. -/
theorem pending (h : Books calls watchers evictions cells) {k : Nat} {e : Eviction}
    (hk : evictions[k]? = some e) (hran : e.ran = false) :
    ∃ s, cells[e.cell]? = some s ∧ s.disposable = true ∧ (s.callId, e.cell) ∈ calls := by
  obtain ⟨s, hs, hd⟩ := h.disposable hk
  have kept := h.cell hs
  -- The eviction is the only one of its cell, so none of the cell has run.
  have hcur : e.cell ∈ calls.map (·.2) := kept.current.2 fun e₁ he₁ hcell => by
    obtain ⟨k₁, hk₁⟩ := List.mem_iff_getElem?.1 he₁
    obtain rfl := h.unique hk₁ hk hcell
    rw [Option.some.inj (hk₁.symm.trans hk), hran]
  obtain ⟨⟨id, i⟩, hmem, hi⟩ := List.mem_map.1 hcur
  dsimp only at hi
  subst hi
  obtain ⟨s₁, hs₁, hid⟩ := h.entry hmem
  obtain rfl : s = s₁ := Option.some.inj (hs.symm.trans hs₁)
  exact ⟨s, hs, hd, hid ▸ hmem⟩

/-- What is current once a call was forgotten: all but its cell. -/
theorem current_filter (h : Books calls watchers evictions cells)
    (hm : (s.callId, i) ∈ calls) (j : Nat) :
    j ∈ (calls.filter (·.1 != s.callId)).map (·.2) ↔ j ∈ calls.map (·.2) ∧ j ≠ i := by
  constructor
  · intro hj
    obtain ⟨⟨id, j'⟩, hmem, e⟩ := List.mem_map.1 hj
    dsimp only at e
    subst e
    obtain ⟨hmem, hne⟩ := List.mem_filter.1 hmem
    refine ⟨List.mem_map.2 ⟨_, hmem, rfl⟩, fun e => ?_⟩
    subst e
    obtain ⟨s₁, hs₁, hid₁⟩ := h.entry hmem
    obtain ⟨s₂, hs₂, hid₂⟩ := h.entry hm
    obtain rfl : s₁ = s₂ := Option.some.inj (hs₁.symm.trans hs₂)
    simp [← hid₁, hid₂] at hne
  · rintro ⟨hj, hne⟩
    obtain ⟨⟨id, j'⟩, hmem, e⟩ := List.mem_map.1 hj
    dsimp only at e
    subst e
    refine List.mem_map.2 ⟨_, List.mem_filter.2 ⟨hmem, ?_⟩, rfl⟩
    by_contra e
    have e : id = s.callId := by simpa using e
    subst e
    have h₁ := (find?_key h.keys).2 hmem
    have h₂ := (find?_key h.keys).2 hm
    exact hne (Prod.mk.inj (Option.some.inj (h₁.symm.trans h₂))).2

/-- The run of an eviction. -/
theorem evict (h : Books calls watchers evictions cells) {k : Nat} {e e' : Eviction}
    (hk : evictions[k]? = some e) (hran : e.ran = false) (hcell : e'.cell = e.cell)
    (hran' : e'.ran = true) (hs : cells[e.cell]? = some s) :
    Books (calls.filter (·.1 != s.callId)) watchers (evictions.set k e') cells := by
  obtain ⟨hlt, hget⟩ := List.getElem?_eq_some_iff.1 hk
  obtain ⟨s₁, hs₁, -, hm⟩ := h.pending hk hran
  obtain rfl : s = s₁ := Option.some.inj (hs.symm.trans hs₁)
  refine ⟨fun {i s₁} hi => ?_, fun hmem => h.entry (List.mem_filter.1 hmem).1,
    h.keys.sublist (List.filter_sublist.map _), h.watcher, fun e₁ he₁ => ?_⟩
  · have kept := h.cell hi
    refine { kept with planned := (planned_set hk hcell i).trans kept.planned, current := ?_ }
    rw [h.current_filter hm, kept.current]
    constructor
    · rintro ⟨hall, hne⟩ e₁ he₁ hi₁
      rcases List.mem_or_eq_of_mem_set he₁ with hm | rfl
      · exact hall e₁ hm hi₁
      · exact absurd (hi₁.symm.trans hcell) hne
    · intro hall
      have hne : i ≠ e.cell := fun e₁ => by
        have := hall e' (List.mem_iff_getElem?.2 ⟨k, by simp [hlt]⟩) (hcell.trans e₁.symm)
        rw [hran'] at this
        exact absurd this (by decide)
      refine ⟨fun e₁ he₁ hi₁ => ?_, hne⟩
      obtain ⟨k', hk'⟩ := List.mem_iff_getElem?.1 he₁
      have hkk : k ≠ k' := fun e₂ => hne <| by
        subst e₂
        rw [← hi₁, Option.some.inj (hk.symm.trans hk')]
      exact hall e₁ (List.mem_iff_getElem?.2 ⟨k', by simp [hkk, hk']⟩) hi₁
  · rcases List.mem_or_eq_of_mem_set he₁ with hm | rfl
    · exact h.eviction e₁ hm
    · exact hcell ▸ h.eviction e (hget ▸ List.getElem_mem hlt)

end Books

end TaskWatch
