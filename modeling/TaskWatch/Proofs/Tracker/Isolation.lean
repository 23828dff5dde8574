import Mathlib.Logic.Equiv.Basic
import TaskWatch.Proofs.Tracker.Deeds

/-!
# Calls are isolated from each other

Two operations on different calls can be done in either order: the calls, the watchers and the
evictions come out the same, and so do the views (`Tracker.Exchanges`). Only the numbers of new cells
and new tokens tell which operation was first, so the two trackers are compared up to a `Renaming`
of what is new (`Tracker.SameUpTo`). Each operation leaves all other calls as they are
(`Tracker.Spares`), and so does a watcher that goes on. `Tracker.calls_are_isolated` is all of this
for every tracker that has always had a runtime.
-/

namespace TaskWatch

/-! ## New names -/

/-- New names for cells and tokens. -/
structure Renaming where
  cell : Equiv.Perm Nat
  token : Equiv.Perm Token

def CallState.rename (r : Renaming) (s : CallState) : CallState :=
  { s with token := s.token.map r.token }

def Watcher.rename (r : Renaming) (v : Watcher) : Watcher :=
  { v with cell := r.cell v.cell, token := r.token v.token }

def Eviction.rename (r : Renaming) (e : Eviction) : Eviction := { e with cell := r.cell e.cell }

namespace Renaming

/-- No new names. -/
def same : Renaming := ⟨Equiv.refl Nat, Equiv.refl Token⟩

variable {r : Renaming}

theorem state {s : CallState} (h : ∀ token, s.token = some token → r.token token = token) :
    s.rename r = s := by
  unfold CallState.rename
  cases htoken : s.token with
  | none => rw [Option.map_none, ← htoken]
  | some token => rw [Option.map_some, h token htoken, ← htoken]

theorem watcher {v : Watcher} (hcell : r.cell v.cell = v.cell) (htoken : r.token v.token = v.token) :
    v.rename r = v := by
  rw [Watcher.rename, hcell, htoken]

theorem eviction {e : Eviction} (hcell : r.cell e.cell = e.cell) : e.rename r = e := by
  rw [Eviction.rename, hcell]

end Renaming

/-- The exchange of the first two of the numbers from `n` on, if both are in use. -/
def exchange (n : Nat) (first second : Bool) : Equiv.Perm Nat :=
  if first && second then Equiv.swap n (n + 1) else Equiv.refl Nat

theorem exchange_of_lt {n k : Nat} (h : k < n) (first second : Bool) :
    exchange n first second k = k := by
  unfold exchange
  split
  · exact Equiv.swap_apply_of_ne_of_ne (by omega) (by omega)
  · rfl

/-- What comes first in one order comes after the other, if there is one, in the other order. -/
theorem exchange_first (n : Nat) (second : Bool) :
    exchange n true second n = n + second.toNat := by
  cases second with
  | false => rfl
  | true => exact Equiv.swap_apply_left n (n + 1)

theorem exchange_second (n : Nat) (first : Bool) :
    exchange n first true (n + first.toNat) = n := by
  cases first with
  | false => rfl
  | true => exact Equiv.swap_apply_right n (n + 1)

theorem le_exchange {n k : Nat} (h : n ≤ k) (first second : Bool) : n ≤ exchange n first second k := by
  by_contra hlt
  have hfix := exchange_of_lt (Nat.not_le.1 hlt) first second
  rw [(exchange n first second).injective hfix] at hlt
  exact hlt h

/-- Two things are appended to a list in either order, under new names in the second one. -/
theorem perm_map_append {α : Type} {f : α → α} {old xs ys xs' ys' : List α}
    (hold : ∀ x ∈ old, f x = x) (hxs : xs.map f = xs') (hys : ys.map f = ys') :
    (old ++ ys' ++ xs').Perm ((old ++ xs ++ ys).map f) := by
  rw [List.map_append, List.map_append, hxs, hys, List.map_congr_left hold, List.map_id',
    List.append_assoc, List.append_assoc]
  exact List.perm_append_comm.append_left old

/-- The new watch of a call is renamed with its token. -/
theorem Deed.rename_state {r : Renaming} {d : Deed} {token token' : Token}
    (hold : ∀ token, d.cell.token = some token → r.token token = token)
    (hnew : d.watched.isSome = true → r.token token = token') :
    (d.state token).rename r = d.state token' := by
  unfold Deed.state
  split
  · next h => rw [← hnew h]; rfl
  · exact Renaming.state hold

theorem Deed.rename_watchers {r : Renaming} {d : Deed} {i : Nat} {token token' : Token}
    (hnew : d.watched.isSome = true → r.token token = token') :
    (d.watchers i token).map (·.rename r) = d.watchers (r.cell i) token' := by
  unfold Deed.watchers
  cases hd : d.watched with
  | none => rfl
  | some id => rw [← hnew (by rw [hd]; rfl)]; rfl

namespace Tracker

variable {σ : Type} [WatchSource σ]

/-! ## What isolation is -/

/-- Two trackers are the same, but for the names of some cells and tokens. -/
structure SameUpTo (r : Renaming) (t u : Tracker σ) : Prop where
  frame : u = { t with
    cells := u.cells, calls := u.calls, watchers := u.watchers
    evictions := u.evictions, source := u.source }
  cell : ∀ i : Nat, u.cells[r.cell i]? = (t.cells[i]?).map (·.rename r)
  calls : u.calls.Perm (t.calls.map fun (callId, i) => (callId, r.cell i))
  cellOf? : ∀ callId, u.cellOf? callId = (t.cellOf? callId).map r.cell
  watchers : u.watchers.Perm (t.watchers.map (·.rename r))
  evictions : u.evictions.Perm (t.evictions.map (·.rename r))
  issued : u.tokens.issued = t.tokens.issued
  cancelled : ∀ token, u.tokens.isCancelled token = t.tokens.isCancelled token

/-- Two operations can be done in either order. -/
structure Exchanges (t : Tracker σ) (a b : CallOp) : Prop where
  /-- Only new cells and tokens are renamed. -/
  same : ∃ r : Renaming, (∀ i < t.cells.length, r.cell i = i) ∧
    (∀ token < t.tokens.issued, r.token token = token) ∧
    SameUpTo r ((t.does a).does b) ((t.does b).does a)
  first : (t.does b).view? a = t.view? a
  second : (t.does a).view? b = t.view? b

/-- Whether a cell is that of the call of an operation. -/
def Concerns (t : Tracker σ) (o : CallOp) (i : Nat) : Prop :=
  ∃ callId, o.callId? = some callId ∧ t.cellOf? callId = some i

/-- An operation leaves all calls but its own as they are. -/
structure Spares (t : Tracker σ) (o : CallOp) : Prop where
  cell : ∀ {i : Nat}, i < t.cells.length → ¬t.Concerns o i → (t.does o).cells[i]? = t.cells[i]?
  state : ∀ callId, o.callId? ≠ some (Text.trim callId) →
    (t.does o).state? callId = t.state? callId
  /-- If a token is cancelled, its call held it. -/
  cancelled : ∀ token, (t.does o).tokens.isCancelled token = true →
    t.tokens.isCancelled token = true ∨
      ∃ i s, t.Concerns o i ∧ t.cells[i]? = some s ∧ s.token = some token
  watchers : ∃ new, (t.does o).watchers = t.watchers ++ new ∧
    ∀ v ∈ new, (t.does o).Concerns o v.cell
  evictions : ∃ new, (t.does o).evictions = t.evictions ++ new ∧
    ∀ e ∈ new, (t.does o).Concerns o e.cell
  source : OnlyTokens t.source (t.does o).source

/-- Whatever is done with a call or comes for it is its own affair. -/
structure Isolated (t : Tracker σ) : Prop where
  exchanges : ∀ a b : CallOp, (∀ callId, a.callId? = some callId → b.callId? ≠ some callId) →
    t.Exchanges a b
  spares : ∀ o : CallOp, t.Spares o
  /-- A watcher that goes on leaves all other calls as they are, even if they watch the same task. -/
  polled : ∀ {w : Nat} {v}, t.watchers[w]? = some v →
    (∀ {i : Nat}, i ≠ v.cell → (t.poll w).cells[i]? = t.cells[i]?) ∧
      ∀ callId, t.cellOf? (Text.trim callId) ≠ some v.cell →
        (t.poll w).state? callId = t.state? callId

/-- A state that a run from the start comes to, in which there was a runtime all the time. -/
def Served (t : Tracker σ) : Prop :=
  ∃ config catalog source run, (new config catalog true source).Heeded run ∧
    .step (.runtime false) ∉ run ∧ t = (new config catalog true source).moves run

/-! ## What an operation leaves alone -/

omit [WatchSource σ] in
/-- Different calls have different cells. -/
theorem Kept.cellFor_ne {t : Tracker σ} (kept : t.Kept) {a b : String} (hab : a ≠ b) {i : Nat}
    (hi : t.cellOf? a = some i) : t.cellFor b ≠ i := by
  obtain ⟨s, hs, hid⟩ := kept.cellOf? hi
  rintro rfl
  rw [cellFor] at hs
  cases hj : t.cellOf? b with
  | some j =>
    obtain ⟨s', hs', hid'⟩ := kept.cellOf? hj
    rw [hj, Option.getD_some, hs'] at hs
    exact hab (hid.symm.trans ((congrArg CallState.callId (Option.some.inj hs)).symm.trans hid'))
  | none =>
    rw [hj, Option.getD_none, List.getElem?_eq_none (Nat.le_refl _)] at hs
    cases hs

namespace Performs

variable {t t' : Tracker σ} {callId id : String} {d : Deed}

theorem cellOf? (h : Performs t callId d t') (id : String) :
    t'.cellOf? id = if id = callId then some (t.cellFor callId) else t.cellOf? id := by
  have hfind : t'.cellOf? id =
      (t.cellOf? id).or (((t.entryFor callId).find? (·.1 == id)).map (·.2)) := by
    rw [Tracker.cellOf?, h.calls, List.find?_append, Option.map_or]
    rfl
  rw [hfind, entryFor]
  by_cases e : id = callId
  · subst e
    rw [if_pos rfl, cellFor]
    cases t.cellOf? id with
    | some i => rfl
    | none => simp
  · rw [if_neg e]
    cases hi : t.cellOf? callId with
    | some i => simp
    | none => simp [Ne.symm e]

/-- The other calls keep their cells, and a new one is still to be made, after the one that was made
now. -/
theorem cellFor (h : Performs t callId d t') (hne : id ≠ callId) :
    t'.cellFor id = (t.cellOf? id).getD (t.cells.length + (t.cellOf? callId).isNone.toNat) := by
  rw [Tracker.cellFor, h.cellOf?, if_neg hne, h.length]

/-- The other calls keep their states. -/
theorem stateFor (h : Performs t callId d t') (kept : t.Kept) (hne : id ≠ callId) :
    t'.stateFor id = t.stateFor id := by
  have hconfig : t'.config = t.config := by rw [h.frame]
  rw [Tracker.stateFor, Tracker.stateFor, h.cellOf?, if_neg hne, hconfig]
  cases hi : t.cellOf? id with
  | none => rfl
  | some i =>
    rw [Option.bind_some, Option.bind_some, h.cell, if_neg (kept.cellFor_ne hne hi).symm]

theorem evictionOf (h : Performs t callId d t') (i : Nat) : t'.evictionOf i = t.evictionOf i := by
  rw [h.frame]
  rfl

end Performs

/-! ## Two operations -/

/-- Two operations on different calls, in either order: `ta` is the tracker after the first operation
and `tab` after both, `tb` the one after the second and `tba` after both. -/
structure Crossing (t ta tab tb tba : Tracker σ) (a b : String) (da db : Deed) : Prop where
  guarded : t.Guarded
  differ : a ≠ b
  first : Performs t a da ta
  second : Performs ta b db tab
  second' : Performs t b db tb
  first' : Performs tb a da tba
  kept : ta.Kept
  kept' : tb.Kept
  /-- Tokens that the calls hold were handed out before. -/
  held : ∀ token, da.cell.token = some token → token < t.tokens.issued
  held' : ∀ token, db.cell.token = some token → token < t.tokens.issued

namespace Crossing

variable {t ta tab tb tba : Tracker σ} {a b : String} {da db : Deed}

/-- The new names of what the operations have made. -/
def names (_ : Crossing t ta tab tb tba a b da db) : Renaming where
  cell := exchange t.cells.length (t.cellOf? a).isNone (t.cellOf? b).isNone
  token := exchange t.tokens.issued da.watched.isSome db.watched.isSome

theorem cell_first (h : Crossing t ta tab tb tba a b da db) :
    h.names.cell (t.cellFor a) = tb.cellFor a := by
  rw [h.second'.cellFor h.differ, cellFor, names]
  dsimp only
  cases hi : t.cellOf? a with
  | some i => exact exchange_of_lt (h.guarded.kept.cellOf?_lt hi) _ _
  | none => exact exchange_first t.cells.length _

theorem cell_second (h : Crossing t ta tab tb tba a b da db) :
    h.names.cell (ta.cellFor b) = t.cellFor b := by
  rw [h.first.cellFor (Ne.symm h.differ), cellFor, names]
  dsimp only
  cases hi : t.cellOf? b with
  | some i => exact exchange_of_lt (h.guarded.kept.cellOf?_lt hi) _ _
  | none => exact exchange_second t.cells.length _

theorem token_first (h : Crossing t ta tab tb tba a b da db) (hda : da.watched.isSome = true) :
    h.names.token t.tokens.next = tb.tokens.next := by
  rw [Tokens.next, Tokens.next, h.second'.issued, names]
  dsimp only
  rw [hda]
  exact exchange_first t.tokens.issued _

theorem token_second (h : Crossing t ta tab tb tba a b da db) (hdb : db.watched.isSome = true) :
    h.names.token ta.tokens.next = t.tokens.next := by
  rw [Tokens.next, Tokens.next, h.first.issued, names]
  dsimp only
  rw [hdb]
  exact exchange_second t.tokens.issued _

theorem token_old (h : Crossing t ta tab tb tba a b da db) {token : Token}
    (htoken : token < t.tokens.issued) : h.names.token token = token :=
  exchange_of_lt htoken _ _

theorem cell_old (h : Crossing t ta tab tb tba a b da db) {i : Nat}
    (hi : i < t.cells.length) : h.names.cell i = i :=
  exchange_of_lt hi _ _

/-- The states of the two calls come out the same. -/
theorem state_first (h : Crossing t ta tab tb tba a b da db) :
    (da.state t.tokens.next).rename h.names = da.state tb.tokens.next :=
  Deed.rename_state (fun token e => h.token_old (h.held token e)) h.token_first

theorem state_second (h : Crossing t ta tab tb tba a b da db) :
    (db.state ta.tokens.next).rename h.names = db.state t.tokens.next :=
  Deed.rename_state (fun token e => h.token_old (h.held' token e)) h.token_second

theorem cell (h : Crossing t ta tab tb tba a b da db) (i : Nat) :
    tba.cells[h.names.cell i]? =
      (tab.cells[i]?).map (·.rename h.names) := by
  have hfirst := h.cell_first
  have hsecond := h.cell_second
  have ha : ta.cellOf? a = some (t.cellFor a) := by rw [h.first.cellOf?, if_pos rfl]
  have hb : tb.cellOf? b = some (t.cellFor b) := by rw [h.second'.cellOf?, if_pos rfl]
  have hne : ta.cellFor b ≠ t.cellFor a := h.kept.cellFor_ne h.differ ha
  have hne' : tb.cellFor a ≠ t.cellFor b := h.kept'.cellFor_ne (Ne.symm h.differ) hb
  rw [h.first'.cell, h.second.cell, h.second'.cell, h.first.cell]
  -- The cell is that of the first call, that of the second, or one that neither has touched.
  by_cases ei : i = t.cellFor a
  · rw [ei, hfirst, if_pos rfl, if_neg hne.symm, if_pos rfl, Option.map_some, h.state_first]
  · by_cases ej : i = ta.cellFor b
    · rw [ej, hsecond, if_neg hne'.symm, if_pos rfl, if_pos rfl, Option.map_some, h.state_second]
    · have ni : h.names.cell i ≠ tb.cellFor a := fun e =>
        ei (h.names.cell.injective (e.trans hfirst.symm))
      have nj : h.names.cell i ≠ t.cellFor b := fun e =>
        ej (h.names.cell.injective (e.trans hsecond.symm))
      rw [if_neg ni, if_neg nj, if_neg ej, if_neg ei]
      obtain hi | hi := Nat.lt_or_ge i t.cells.length
      · rw [h.cell_old hi]
        cases hs : t.cells[i]? with
        | none => rfl
        | some s =>
          rw [Option.map_some, Renaming.state fun token e =>
            h.token_old (h.guarded.armed.held hs e)]
      · have hi' : t.cells.length ≤ h.names.cell i := le_exchange hi _ _
        rw [List.getElem?_eq_none hi, List.getElem?_eq_none hi', Option.map_none]

theorem cellOf? (h : Crossing t ta tab tb tba a b da db) (id : String) :
    tba.cellOf? id = (tab.cellOf? id).map h.names.cell := by
  rw [h.first'.cellOf?, h.second'.cellOf?, h.second.cellOf?, h.first.cellOf?]
  by_cases ea : id = a
  · have hne : id ≠ b := ea ▸ h.differ
    rw [if_pos ea, if_neg hne, if_pos ea, Option.map_some, h.cell_first]
  · rw [if_neg ea, if_neg ea]
    split
    · rw [Option.map_some, h.cell_second]
    · cases hi : t.cellOf? id with
      | none => rfl
      | some i => rw [Option.map_some, h.cell_old (h.guarded.kept.cellOf?_lt hi)]

theorem calls (h : Crossing t ta tab tb tba a b da db) :
    tba.calls.Perm (tab.calls.map fun (callId, i) => (callId, h.names.cell i)) := by
  rw [h.first'.calls, h.second'.calls, h.second.calls, h.first.calls]
  refine perm_map_append (fun (id, i) hm => ?_) ?_ ?_
  · obtain ⟨s, hs, -⟩ := h.guarded.kept.entry hm
    exact congrArg (id, ·) (h.cell_old (List.getElem?_eq_some_iff.1 hs).1)
  · rw [entryFor, entryFor, h.second'.cellOf?, if_neg h.differ, ← h.cell_first]
    cases t.cellOf? a <;> rfl
  · rw [entryFor, entryFor, h.first.cellOf?, if_neg (Ne.symm h.differ), ← h.cell_second]
    cases t.cellOf? b <;> rfl

theorem watchers (h : Crossing t ta tab tb tba a b da db) :
    tba.watchers.Perm (tab.watchers.map (·.rename h.names)) := by
  rw [h.first'.watchers, h.second'.watchers, h.second.watchers, h.first.watchers]
  refine perm_map_append (fun v hv => ?_) ?_ ?_
  · obtain ⟨s, hs, -⟩ := h.guarded.kept.watcher v hv
    exact Renaming.watcher (h.cell_old (List.getElem?_eq_some_iff.1 hs).1)
      (h.token_old (h.guarded.armed.issued v hv))
  · rw [Deed.rename_watchers h.token_first, h.cell_first]
  · rw [Deed.rename_watchers h.token_second, h.cell_second]

theorem evictions (h : Crossing t ta tab tb tba a b da db) :
    tba.evictions.Perm (tab.evictions.map (·.rename h.names)) := by
  have plan : ∀ i, (t.evictionOf i).rename h.names = t.evictionOf (h.names.cell i) := fun i => by
    unfold evictionOf
    split <;> rfl
  rw [h.first'.evictions, h.second'.evictions, h.second.evictions, h.first.evictions,
    h.second'.evictionOf, h.first.evictionOf]
  refine perm_map_append (fun e he => Renaming.eviction (h.cell_old (h.guarded.kept.eviction e he))) ?_ ?_
  · split
    · rw [List.map_singleton, plan, h.cell_first]
    · rfl
  · split
    · rw [List.map_singleton, plan, h.cell_second]
    · rfl

theorem sameUpTo (h : Crossing t ta tab tb tba a b da db) : SameUpTo h.names tab tba where
  frame := by
    rw [h.first'.frame, h.second'.frame, h.second.frame, h.first.frame]
  cell := h.cell
  calls := h.calls
  cellOf? := h.cellOf?
  watchers := h.watchers
  evictions := h.evictions
  issued := by
    rw [h.first'.issued, h.second'.issued, h.second.issued, h.first.issued]
    exact Nat.add_right_comm _ _ _
  cancelled token := by
    rw [h.first'.cancelled, h.second'.cancelled, h.second.cancelled, h.first.cancelled]
    exact Bool.or_left_comm _ _ _

end Crossing

section

variable [HeedfulSource σ] {t : Tracker σ}

theorem Guarded.does (h : t.Guarded) (o : CallOp) : (t.does o).Guarded := h.step o.step

omit [HeedfulSource σ] in
theorem Prompt.does (h : t.Prompt) (o : CallOp) : (t.does o).Prompt :=
  h.step (by cases o <;> nofun)

/-- What an operation shows is none of the business of an operation on another call. -/
theorem view?_does (guarded : t.Guarded) (prompt : t.Prompt) {a b : CallOp}
    (hab : ∀ callId, a.callId? = some callId → b.callId? ≠ some callId) :
    (t.does b).view? a = t.view? a := by
  cases hb : b.callId? with
  | none => rw [prompt.does_of_none hb]
  | some idb =>
    have performs := prompt.performs guarded.kept hb
    have hcatalog : (t.does b).catalog = t.catalog := by rw [performs.frame]
    have hclosed : (t.does b).closed = t.closed := by rw [performs.frame]
    rw [(prompt.does b).view?_eq (guarded.does b).kept, prompt.view?_eq guarded.kept, hcatalog,
      hclosed]
    cases ha : a.callId? with
    | none => rw [Option.map_none, Option.map_none]
    | some ida =>
      have hne : ida ≠ idb := fun e => hab ida ha (e ▸ hb)
      rw [Option.map_some, Option.map_some, performs.stateFor guarded.kept hne]

omit [HeedfulSource σ] in
/-- The token of a call was handed out, and an operation on it does not change that. -/
theorem Guarded.deed_held (guarded : t.Guarded) (o : CallOp) (callId : String) {token : Token}
    (h : (o.deed t.catalog t.closed (t.stateFor callId)).cell.token = some token) :
    token < t.tokens.issued := by
  obtain ⟨hcell | hcell, -⟩ := o.deed_tokens t.catalog t.closed (t.stateFor callId)
  · rw [hcell, stateFor] at h
    cases hi : t.cellOf? callId with
    | none =>
      rw [hi] at h
      cases h
    | some i =>
      obtain ⟨s, hs, -⟩ := guarded.kept.cellOf? hi
      rw [hi, Option.bind_some, hs] at h
      exact guarded.armed.held hs h
  · rw [hcell] at h
    cases h

theorem crossing (guarded : t.Guarded) (prompt : t.Prompt) {a b : CallOp} {ida idb : String}
    (ha : a.callId? = some ida) (hb : b.callId? = some idb) (hne : ida ≠ idb) :
    Crossing t (t.does a) ((t.does a).does b) (t.does b) ((t.does b).does a) ida idb
      (a.deed t.catalog t.closed (t.stateFor ida)) (b.deed t.catalog t.closed (t.stateFor idb)) := by
  have first := prompt.performs guarded.kept ha
  have second' := prompt.performs guarded.kept hb
  have second := (prompt.does a).performs (guarded.does a).kept hb
  have first' := (prompt.does b).performs (guarded.does b).kept ha
  -- What the one operation finds, the other has not changed.
  have hcatalog : (t.does a).catalog = t.catalog := by rw [first.frame]
  have hclosed : (t.does a).closed = t.closed := by rw [first.frame]
  have hcatalog' : (t.does b).catalog = t.catalog := by rw [second'.frame]
  have hclosed' : (t.does b).closed = t.closed := by rw [second'.frame]
  rw [first.stateFor guarded.kept (Ne.symm hne), hcatalog, hclosed] at second
  rw [second'.stateFor guarded.kept hne, hcatalog', hclosed'] at first'
  exact ⟨guarded, hne, first, second, second', first', (guarded.does a).kept, (guarded.does b).kept,
    fun _ => guarded.deed_held a ida, fun _ => guarded.deed_held b idb⟩

omit [HeedfulSource σ] in
theorem SameUpTo.refl (t : Tracker σ) : SameUpTo .same t t where
  frame := rfl
  cell i := by
    cases hs : t.cells[i]? with
    | none => exact hs
    | some s => rw [Option.map_some, Renaming.state fun _ _ => rfl]; exact hs
  calls := .of_eq (List.map_id _).symm
  cellOf? id := Option.map_id'.symm
  watchers := .of_eq (List.map_id _).symm
  evictions := .of_eq (List.map_id _).symm
  issued := rfl
  cancelled _ := rfl

theorem exchanges (guarded : t.Guarded) (prompt : t.Prompt) {a b : CallOp}
    (hab : ∀ callId, a.callId? = some callId → b.callId? ≠ some callId) : t.Exchanges a b where
  first := view?_does guarded prompt hab
  second := view?_does guarded prompt fun callId hb ha => hab callId ha hb
  same := by
    cases ha : a.callId? with
    | none =>
      rw [prompt.does_of_none ha, (prompt.does b).does_of_none ha]
      exact ⟨.same, fun _ _ => rfl, fun _ _ => rfl, .refl _⟩
    | some ida =>
      cases hb : b.callId? with
      | none =>
        rw [prompt.does_of_none hb, (prompt.does a).does_of_none hb]
        exact ⟨.same, fun _ _ => rfl, fun _ _ => rfl, .refl _⟩
      | some idb =>
        have h := crossing guarded prompt ha hb fun e => hab ida ha (e ▸ hb)
        exact ⟨h.names, fun _ => h.cell_old, fun _ => h.token_old, h.sameUpTo⟩

omit [HeedfulSource σ] in
theorem onlyTokens_does [LawfulSource σ] (t : Tracker σ) (o : CallOp) :
    OnlyTokens t.source (t.does o).source := by
  cases o with
  | render call result => exact t.onlyTokens_render call result
  | snapshot callId label lines finished =>
    exact Changes.onlyTokens (t.updateSnapshot_changes callId label lines finished)

theorem spares (guarded : t.Guarded) (prompt : t.Prompt) (o : CallOp) : t.Spares o := by
  cases ho : o.callId? with
  | none =>
    have hdoes := prompt.does_of_none ho
    refine ⟨fun _ _ => by rw [hdoes], fun _ _ => by rw [hdoes], fun _ hc => .inl (hdoes ▸ hc),
      ⟨[], by rw [hdoes, List.append_nil], nofun⟩, ⟨[], by rw [hdoes, List.append_nil], nofun⟩,
      t.onlyTokens_does o⟩
  | some id =>
    have performs := prompt.performs guarded.kept ho
    have own : (t.does o).Concerns o (t.cellFor id) :=
      ⟨id, ho, by rw [performs.cellOf?, if_pos rfl]⟩
    refine ⟨fun {i} hi hnot => ?_, fun callId hne => ?_, fun token hc => ?_,
      ⟨_, performs.watchers, fun v hv => ?_⟩, ⟨_, performs.evictions, fun e he => ?_⟩,
      t.onlyTokens_does o⟩
    · rw [performs.cell, if_neg]
      rintro rfl
      rw [cellFor] at hi hnot
      cases hcell : t.cellOf? id with
      | some i => exact hnot ⟨id, ho, by rw [hcell]; rfl⟩
      | none =>
        rw [hcell] at hi
        exact Nat.lt_irrefl _ hi
    · have hid : Text.trim callId ≠ id := fun e => hne (e ▸ ho)
      rw [state?, state?, performs.cellOf?, if_neg hid]
      cases hi : t.cellOf? (Text.trim callId) with
      | none => rfl
      | some i =>
        rw [Option.bind_some, Option.bind_some, performs.cell,
          if_neg (guarded.kept.cellFor_ne hid hi).symm]
    · rw [performs.cancelled, Bool.or_eq_true, beq_iff_eq] at hc
      refine hc.symm.imp_right fun hc => ?_
      obtain ⟨-, hcancelled | hcancelled⟩ := o.deed_tokens t.catalog t.closed (t.stateFor id)
      · rw [hcancelled] at hc
        cases hc
      · rw [hcancelled, stateFor] at hc
        cases hi : t.cellOf? id with
        | none =>
          rw [hi] at hc
          cases hc
        | some i =>
          obtain ⟨s, hs, -⟩ := guarded.kept.cellOf? hi
          rw [hi, Option.bind_some, hs] at hc
          exact ⟨i, s, ⟨id, ho, hi⟩, hs, hc⟩
    · obtain ⟨taskId, -, rfl⟩ := List.mem_map.1 hv
      exact own
    · split at he
      · rw [List.mem_singleton.1 he, cell_evictionOf]
        exact own
      · cases he

/-- Calls are isolated from each other in a tracker that has always had a runtime. -/
theorem calls_are_isolated (h : t.Served) : t.Isolated := by
  obtain ⟨config, catalog, source, run, hheeded, hrun, rfl⟩ := h
  have guarded := (Guarded.new config catalog true source).moves hheeded
  have prompt := (Prompt.new config catalog source).moves hrun
  generalize (new config catalog true source).moves run = t at guarded prompt
  refine ⟨fun _ _ => exchanges guarded prompt, spares guarded prompt, fun {w v} hw => ?_⟩
  obtain ⟨hcells, hcalls⟩ := Confined.poll t hw
  refine ⟨hcells, fun callId hne => ?_⟩
  have hcell : (t.poll w).cellOf? (Text.trim callId) = t.cellOf? (Text.trim callId) := by
    rw [cellOf?, hcalls]
    rfl
  rw [state?, state?, hcell]
  cases hi : t.cellOf? (Text.trim callId) with
  | none => rfl
  | some i =>
    have hother : i ≠ v.cell := fun e => hne (e ▸ hi)
    rw [Option.bind_some, Option.bind_some, hcells hother]

end

/-- Two calls that are bound to one task, of which the first watches it already. -/
def twins : Tracker Broker :=
  blank.moves (([.render { id := "a" } naming, .poll 0, .render { id := "b" } naming] :
    List TrackerStep).map .step)

/-- The end of the one call and the render of a new one can be exchanged, and a poll of the watcher
of the one call leaves the other as it is. -/
theorem twins_are_isolated :
    twins.Exchanges (.snapshot "a" "Built" ["done"] true) (.render { id := "c" } naming) ∧
      (twins.poll 0).state? "b" = twins.state? "b" := by
  have hserved : twins.Served :=
    ⟨{}, {}, .new 32, _, heeded_steps blank _, by simp, rfl⟩
  have h := calls_are_isolated hserved
  have hfirst : twins.watchers[0]? = some ⟨0, "t", 0, .following 0⟩ := by decide +kernel
  have hother : twins.cellOf? (Text.trim "b") ≠ some 0 := by decide +kernel
  refine ⟨h.exchanges _ _ fun callId ha => ?_, (h.polled hfirst).2 "b" hother⟩
  have hid : (CallOp.snapshot "a" "Built" ["done"] true).callId? = some "a" := by decide +kernel
  obtain rfl := Option.some.inj (hid.symm.trans ha)
  decide +kernel

end Tracker

end TaskWatch
