import Mathlib.Data.List.Basic
import TaskWatch.Locator.Window

/-!
# Jobs end once, and answers come in order

Whatever a schedule chooses, a step ends one of the jobs that have not ended (`Window.step_ends`). A
run of as many steps as there are jobs therefore ends each job once, in some order. If the answers do
not depend on that order, they come out in the order of the jobs (`Window.answersOf_eq`).
-/

namespace TaskWatch.Window

variable {α β σ : Type}

/-- The jobs that have not ended. -/
def pending (w : Window α β) : List α :=
  (w.started.filter (·.2.isNone)).map (·.1) ++ w.waiting

/-- The jobs whose answers have not left the window. -/
def unreleased (w : Window α β) : List α := w.started.map (·.1) ++ w.waiting

/-- A window over some jobs with known answers: the answers that have left it, and those of the other
jobs, are the answers of the jobs in order, and the oldest job in the window has not ended. -/
structure Sound (answer : α → β) (jobs : List α) (w : Window α β) : Prop where
  width : 0 < w.width
  inOrder : w.answers ++ w.unreleased.map answer = jobs.map answer
  ended : ∀ p ∈ w.started, ∀ b ∈ p.2, b = answer p.1
  oldest : ∀ p ∈ w.started.head?, p.2 = none

variable {answer : α → β} {jobs : List α} {w : Window α β}

theorem Sound.new (answer : α → β) (width : Nat) (jobs : List α) :
    Sound answer jobs (Window.new width jobs) where
  width := Nat.le_max_right width 1
  inOrder := rfl
  ended := nofun
  oldest := nofun

/-! ## Filling the window -/

theorem map_fst_fresh (jobs : List α) :
    (jobs.map fun job => ((job, none) : α × Option β)).map (·.1) = jobs := by
  rw [List.map_map]
  exact List.map_id _

theorem filter_fresh (jobs : List α) :
    (jobs.map fun job => ((job, none) : α × Option β)).filter (·.2.isNone) =
      jobs.map fun job => (job, none) := by
  refine List.filter_eq_self.2 fun p hp => ?_
  obtain ⟨job, -, rfl⟩ := List.mem_map.1 hp
  rfl

/-- A job that is started has not ended yet. -/
theorem pending_refill (w : Window α β) : w.refill.pending = w.pending := by
  rw [pending, refill, List.filter_append, filter_fresh, List.map_append, map_fst_fresh,
    List.append_assoc, List.take_append_drop]
  rfl

theorem unreleased_refill (w : Window α β) : w.refill.unreleased = w.unreleased := by
  rw [unreleased, refill, List.map_append, map_fst_fresh, List.append_assoc,
    List.take_append_drop]
  rfl

theorem Sound.refill (h : Sound answer jobs w) : Sound answer jobs w.refill where
  width := h.width
  inOrder := by
    rw [unreleased_refill]
    exact h.inOrder
  ended p hp := by
    obtain hp | hp := List.mem_append.1 hp
    · exact h.ended p hp
    · obtain ⟨job, -, rfl⟩ := List.mem_map.1 hp
      exact nofun
  oldest p hp := by
    rw [Window.refill] at hp
    cases hstarted : w.started with
    | cons first rest =>
      rw [hstarted] at hp
      exact h.oldest p (hstarted ▸ hp)
    | nil =>
      rw [hstarted, List.nil_append] at hp
      obtain ⟨job, -, rfl⟩ := List.mem_map.1 (List.mem_of_mem_head? hp)
      rfl

/-- After filling, the oldest job in the window is under way, if any job has not ended. -/
theorem Sound.exists_oldest (h : Sound answer jobs w) (hpending : w.pending ≠ []) :
    ∃ job rest, w.refill.started = (job, none) :: rest := by
  cases hstarted : w.refill.started with
  | cons first rest =>
    have hfirst : first.2 = none := h.refill.oldest first (by rw [hstarted]; rfl)
    exact ⟨first.1, rest, by rw [← hfirst]⟩
  | nil =>
    obtain ⟨hnone, hfresh⟩ := List.append_eq_nil_iff.1 hstarted
    have hwaiting : w.waiting ≠ [] := by
      intro hwaiting
      exact hpending (by rw [pending, hnone, hwaiting]; rfl)
    have htake := List.map_eq_nil_iff.1 hfresh
    rw [hnone, List.take_eq_nil_iff] at htake
    have hwidth := h.width
    exact (htake.elim (fun h0 => by simp at h0; omega) hwaiting).elim

/-! ## Emptying the window -/

/-- The answers that leave the window are those before the oldest job under way. -/
theorem release_eq (started : List (α × Option β)) :
    release started = ((started.takeWhile (·.2.isSome)).filterMap (·.2),
      started.dropWhile (·.2.isSome)) := by
  induction started with
  | nil => rfl
  | cons p rest ih =>
    obtain ⟨job, _ | b⟩ := p
    · rfl
    · rw [release, ih]
      rfl

variable {started : List (α × Option β)}

/-- No job under way leaves the window. -/
theorem filter_dropWhile (started : List (α × Option β)) :
    (started.dropWhile (·.2.isSome)).filter (·.2.isNone) = started.filter (·.2.isNone) := by
  induction started with
  | nil => rfl
  | cons p rest ih =>
    obtain ⟨job, _ | b⟩ := p
    · rfl
    · exact ih

/-- The answers that leave are those of the jobs that leave. -/
theorem filterMap_takeWhile (hended : ∀ p ∈ started, ∀ b ∈ p.2, b = answer p.1) :
    (started.takeWhile (·.2.isSome)).filterMap (·.2) =
      ((started.takeWhile (·.2.isSome)).map (·.1)).map answer := by
  induction started with
  | nil => rfl
  | cons p rest ih =>
    obtain ⟨hp, hrest⟩ := List.forall_mem_cons.1 hended
    obtain ⟨job, _ | b⟩ := p
    · rfl
    · obtain rfl : b = answer job := hp b rfl
      exact congrArg (answer job :: ·) (ih hrest)

/-- The window without the jobs that leave it. -/
def released (w : Window α β) : Window α β :=
  { w with
    started := w.started.dropWhile (·.2.isSome)
    answers := w.answers ++ (w.started.takeWhile (·.2.isSome)).filterMap (·.2) }

theorem pending_released (w : Window α β) : w.released.pending = w.pending := by
  rw [pending, released, filter_dropWhile]
  rfl

theorem Sound.released (hwidth : 0 < w.width)
    (hinOrder : w.answers ++ w.unreleased.map answer = jobs.map answer)
    (hended : ∀ p ∈ w.started, ∀ b ∈ p.2, b = answer p.1) : Sound answer jobs w.released where
  width := hwidth
  inOrder := by
    rw [← hinOrder, unreleased, unreleased, Window.released, filterMap_takeWhile hended,
      List.append_assoc, ← List.map_append, ← List.append_assoc, ← List.map_append,
      List.takeWhile_append_dropWhile]
  ended p hp := hended p ((List.dropWhile_sublist _).subset hp)
  oldest p hp := by
    have hfirst : (w.started.dropWhile (·.2.isSome)).head? = some p := hp
    have hnone := List.head?_dropWhile_not (·.2.isSome) w.started
    rw [hfirst] at hnone
    exact Option.isSome_eq_false_iff.1 hnone |> Option.isNone_iff_eq_none.1

/-! ## Steps -/

/-- The schedule chooses a job under way if there is one. -/
theorem exists_chosen {job : α} {rest : List (α × Option β)} (h : w.started = (job, none) :: rest)
    (choice : Nat) :
    ∃ i job, w.chosen? choice = some i ∧ w.started[i]? = some (job, none) := by
  have hfirst : 0 ∈ w.underWay := by
    rw [underWay, h]
    exact List.mem_filter.2 ⟨List.mem_range.2 (Nat.succ_pos _), rfl⟩
  have hlt : choice % w.underWay.length < w.underWay.length :=
    Nat.mod_lt _ (List.length_pos_of_mem hfirst)
  have hmem : w.underWay[choice % w.underWay.length] ∈ w.underWay := List.getElem_mem hlt
  obtain ⟨-, hnone⟩ := List.mem_filter.1 hmem
  obtain ⟨⟨job, b⟩, hp, hb⟩ := (Option.any_eq_true _ _).1 hnone
  refine ⟨_, job, List.getElem?_eq_getElem hlt, ?_⟩
  obtain rfl : b = none := Option.isNone_iff_eq_none.1 hb
  exact hp

/-- The window after a job has got its answer. -/
def answered (w : Window α β) (i : Nat) (job : α) (b : β) : Window α β :=
  { w with started := w.started.set i (job, some b) }

theorem exists_split {i : Nat} {p : α × Option β} (h : started[i]? = some p) (q : α × Option β) :
    ∃ before after, started = before ++ p :: after ∧ started.set i q = before ++ q :: after := by
  obtain ⟨hlt, rfl⟩ := List.getElem?_eq_some_iff.1 h
  refine ⟨started.take i, started.drop (i + 1), ?_, ?_⟩
  · rw [List.getElem_cons_drop, List.take_append_drop]
  · exact List.set_eq_take_append_cons_drop .. |>.trans (if_pos hlt)

/-- A job that has got its answer is no longer pending. -/
theorem pending_answered {i : Nat} {job : α} (hjob : w.started[i]? = some (job, none)) (b : β) :
    w.pending.Perm (job :: (w.answered i job b).pending) := by
  obtain ⟨before, after, hbefore, hafter⟩ := exists_split hjob (job, some b)
  rw [pending, pending, answered, hafter, hbefore]
  simp only [List.filter_append, List.map_append, List.append_assoc]
  exact List.perm_middle

theorem unreleased_answered {i : Nat} {job : α} (hjob : w.started[i]? = some (job, none)) (b : β) :
    (w.answered i job b).unreleased = w.unreleased := by
  obtain ⟨before, after, hbefore, hafter⟩ := exists_split hjob (job, some b)
  rw [unreleased, unreleased, answered, hafter, hbefore]
  simp only [List.map_append, List.map_cons]

/-- A step ends one of the jobs that have not ended. -/
theorem Sound.step_ends (h : Sound answer jobs w) (hpending : w.pending ≠ [])
    {work : α → σ → β × σ} (hwork : ∀ job s, (work job s).1 = answer job) (choice : Nat) (s : σ) :
    ∃ job, w.pending.Perm (job :: (w.step work choice s).1.pending) ∧
      (w.step work choice s).2 = (work job s).2 ∧ Sound answer jobs (w.step work choice s).1 := by
  obtain ⟨first, rest, hfirst⟩ := h.exists_oldest hpending
  obtain ⟨i, job, hi, hjob⟩ := exists_chosen hfirst choice
  have hstep : w.step work choice s =
      ((w.refill.answered i job (answer job)).released, (work job s).2) := by
    simp only [step, hi, hjob, release_eq, hwork, answered, Window.released]
  rw [hstep, ← pending_refill]
  refine ⟨job, ?_, rfl, ?_⟩
  · rw [pending_released]
    exact pending_answered hjob (answer job)
  · refine Sound.released h.refill.width ?_ fun p hp b hb => ?_
    · rw [unreleased_answered hjob]
      exact h.refill.inOrder
    · obtain hp | rfl := List.mem_or_eq_of_mem_set hp
      · exact h.refill.ended p hp b hb
      · exact (Option.some.inj hb).symm

/-! ## Runs -/

/-- A run of as many steps as there are jobs that have not ended ends each of them once. -/
theorem Sound.run_ends (h : Sound answer jobs w) {work : α → σ → β × σ}
    (hwork : ∀ job s, (work job s).1 = answer job) (schedule : Nat → Nat) {n : Nat}
    (hn : w.pending.length = n) (s : σ) :
    ∃ order : List α, order.Perm w.pending ∧
      (run work schedule n w s).2 = order.foldl (fun s job => (work job s).2) s ∧
      Sound answer jobs (run work schedule n w s).1 ∧
      (run work schedule n w s).1.pending = [] := by
  induction n generalizing w s with
  | zero => exact ⟨[], by rw [List.length_eq_zero_iff.1 hn], rfl, h, List.length_eq_zero_iff.1 hn⟩
  | succ n ih =>
    have hpending : w.pending ≠ [] := List.ne_nil_of_length_eq_add_one hn
    obtain ⟨job, hperm, hstate, hsound⟩ := h.step_ends hpending hwork (schedule n) s
    have hlength : (w.step work (schedule n) s).1.pending.length = n := by
      have hlength := hperm.length_eq
      rw [hn, List.length_cons] at hlength
      omega
    obtain ⟨order, horder, hrun, hdone⟩ := ih hsound hlength (w.step work (schedule n) s).2
    refine ⟨job :: order, (horder.cons job).trans hperm.symm, ?_, hdone⟩
    rw [List.foldl_cons, ← hstate]
    exact hrun

/-- When no job is pending, all answers have left the window. -/
theorem Sound.answers_eq (h : Sound answer jobs w) (hpending : w.pending = []) :
    w.answers = jobs.map answer := by
  obtain ⟨hnone, hwaiting⟩ := List.append_eq_nil_iff.1 hpending
  have hstarted : w.started = [] := by
    cases hstarted : w.started with
    | nil => rfl
    | cons p rest =>
      have hp : p.2 = none := h.oldest p (by rw [hstarted]; rfl)
      rw [hstarted, List.filter_cons_of_pos (by rw [hp]; rfl)] at hnone
      cases hnone
  have hinOrder := h.inOrder
  rwa [unreleased, hstarted, hwaiting, List.map_nil, List.nil_append, List.map_nil,
    List.append_nil] at hinOrder

/-- Each job is done once, in an order that the schedule chooses, and the answers come in the order
of the jobs. -/
theorem answersOf_eq {work : α → σ → β × σ} (hwork : ∀ job s, (work job s).1 = answer job)
    (schedule : Nat → Nat) (width : Nat) (jobs : List α) (s : σ) :
    (answersOf work schedule width jobs s).1 = jobs.map answer ∧
      ∃ order : List α, order.Perm jobs ∧
        (answersOf work schedule width jobs s).2 = order.foldl (fun s job => (work job s).2) s := by
  obtain ⟨order, horder, hstate, hsound, hpending⟩ :=
    (Sound.new answer width jobs).run_ends hwork schedule (n := jobs.length) rfl s
  exact ⟨hsound.answers_eq hpending, order, horder, hstate⟩

end TaskWatch.Window
