import TaskWatch.Proofs.Tracker.Armed

/-!
# What is done to many calls at once

The end of a session marks its cells done, and a shutdown cancels the watches of all current cells,
one cell after the other. In either case each of the cells changes as it would alone, its token is
cancelled, and all other cells and tokens stay as they are (`Tracker.Strikes`).
-/

namespace TaskWatch.Tracker

variable {σ : Type} [WatchSource σ]

/-- Some cells change, and lose their tokens, which are cancelled. -/
structure Strikes (change : CallState → CallState) (struck : List Nat) (t t' : Tracker σ) :
    Prop where
  frame : t' = { t with cells := t'.cells, evictions := t'.evictions, source := t'.source }
  cell : ∀ j : Nat, t'.cells[j]? =
    if j ∈ struck then (t.cells[j]?).map change else t.cells[j]?
  cancelled : ∀ token, t'.tokens.isCancelled token = true ↔
    t.tokens.isCancelled token = true ∨
      ∃ i ∈ struck, ∃ s, t.cells[i]? = some s ∧ s.token = some token

namespace Strikes

variable {change : CallState → CallState} {struck struck' : List Nat} {t t' t'' : Tracker σ}

theorem refl (change : CallState → CallState) (t : Tracker σ) : Strikes change [] t t where
  frame := rfl
  cell j := by simp
  cancelled token := by simp

/-- The cells that are struck first have lost their tokens, so striking them again does nothing. -/
theorem trans (h : Strikes change struck t t') (h' : Strikes change struck' t' t'')
    (htwice : ∀ s, change (change s) = change s) (htoken : ∀ s, (change s).token = none) :
    Strikes change (struck ++ struck') t t'' where
  frame := by rw [h'.frame, h.frame]
  cell j := by
    rw [h'.cell, h.cell]
    simp only [List.mem_append]
    by_cases hj : j ∈ struck
    · by_cases hj' : j ∈ struck'
      · simp [hj, hj', Function.comp_def, htwice]
      · simp [hj, hj']
    · simp [hj]
  cancelled token := by
    rw [h'.cancelled, h.cancelled, or_assoc]
    refine or_congr_right ⟨?_, ?_⟩
    · rintro (⟨i, hi, s, hs, he⟩ | ⟨i, hi, s', hs', he⟩)
      · exact ⟨i, List.mem_append_left _ hi, s, hs, he⟩
      · rw [h.cell] at hs'
        split at hs'
        · obtain ⟨s, -, rfl⟩ := Option.map_eq_some_iff.1 hs'
          rw [htoken] at he
          cases he
        · exact ⟨i, List.mem_append_right _ hi, s', hs', he⟩
    · rintro ⟨i, hi, s, hs, he⟩
      by_cases hfirst : i ∈ struck
      · exact .inl ⟨i, hfirst, s, hs, he⟩
      · refine .inr ⟨i, (List.mem_append.1 hi).resolve_left hfirst, s, ?_, he⟩
        rw [h.cell, if_neg hfirst, hs]

theorem foldl {f : Tracker σ → Nat → Tracker σ} (hone : ∀ t i, Strikes change [i] t (f t i))
    (htwice : ∀ s, change (change s) = change s) (htoken : ∀ s, (change s).token = none)
    (t : Tracker σ) (struck : List Nat) : Strikes change struck t (struck.foldl f t) := by
  induction struck generalizing t with
  | nil => exact refl change t
  | cons i struck ih => exact (hone t i).trans (ih (f t i)) htwice htoken

/-- A single cell is struck. -/
theorem of_set [HeedfulSource σ] {i : Nat} {s : CallState} (hs : t.cells[i]? = some s)
    (hframe : t' = { t with cells := t'.cells, evictions := t'.evictions, source := t'.source })
    (hcells : t'.cells = t.cells.set i (change s))
    (htokens : t'.tokens = t.tokens.cancelAny s.token) : Strikes change [i] t t' where
  frame := hframe
  cell j := by
    have hlt := (List.getElem?_eq_some_iff.1 hs).1
    rw [hcells]
    by_cases hij : i = j
    · subst hij
      rw [List.getElem?_set_self hlt, if_pos (List.mem_singleton_self i), hs, Option.map_some]
    · rw [List.getElem?_set_ne hij, if_neg fun hm => hij (List.mem_singleton.1 hm).symm]
  cancelled token := by
    rw [htokens, Tokens.isCancelled_cancelAny, Bool.or_eq_true, beq_iff_eq, or_comm]
    refine or_congr_right ⟨fun he => ⟨i, List.mem_singleton_self i, s, hs, he⟩, ?_⟩
    rintro ⟨j, hj, s', hs', he⟩
    obtain rfl := List.mem_singleton.1 hj
    obtain rfl : s = s' := Option.some.inj (hs.symm.trans hs')
    exact he

/-- There is no such cell. -/
theorem of_none {i : Nat} (hs : t.cells[i]? = none) : Strikes change [i] t t where
  frame := rfl
  cell j := by
    split
    · next hj => rw [List.mem_singleton.1 hj, hs, Option.map_none]
    · rfl
  cancelled token := by simp [hs]

variable [HeedfulSource σ]

theorem markDone (t : Tracker σ) (i : Nat) : Strikes CallState.ended [i] t (t.markDone i) := by
  cases hs : t.cells[i]? with
  | none =>
    rw [markDone_of_none hs]
    exact of_none hs
  | some s => exact of_set hs (markDone_frame t i) (by rw [markDone_eq hs]) (tokens_markDone hs)

theorem cancelWatch (t : Tracker σ) (i : Nat) :
    Strikes CallState.tokenless [i] t (t.cancelWatch i) := by
  cases hs : t.cells[i]? with
  | none =>
    rw [cancelWatch_of_none hs]
    exact of_none hs
  | some s =>
    refine of_set hs ?_ (by rw [cancelWatch_eq hs]) (tokens_cancelWatch hs)
    rw [cancelWatch_frame]

end Strikes

variable [HeedfulSource σ]

theorem foldl_markDone (t : Tracker σ) (struck : List Nat) :
    Strikes CallState.ended struck t (struck.foldl Tracker.markDone t) := by
  refine .foldl Strikes.markDone (fun s => ?_) (fun _ => rfl) t struck
  simp [CallState.ended]

theorem foldl_cancelWatch (t : Tracker σ) (struck : List Nat) :
    Strikes CallState.tokenless struck t (struck.foldl Tracker.cancelWatch t) :=
  .foldl Strikes.cancelWatch (fun _ => rfl) (fun _ => rfl) t struck

end TaskWatch.Tracker
