import Mathlib.Data.List.Nodup
import TaskWatch.CommandLine
import TaskWatch.Proofs.Steps

/-!
# Listings have one order

A stable sort puts an element right between those that have to stand before it and the rest
(`mergeSort_cons_eq`), so it goes with every choice of elements (`filter_mergeSort`). One task may
stand before another in a listing if it was not updated earlier and, in case both were updated at
the same instant, its id is not greater (`Task.listedBefore_iff`). This leaves no choice between
tasks with different ids.

`Task.listings_have_one_order` puts together what follows for a listing: its order, and that neither
the order in which a daemon reports the tasks nor the moment at which they are filtered can be seen.
-/

namespace TaskWatch

/-! ## Stable sorting -/

section Sorting

variable {α : Type} {le : α → α → Bool}
  (trans : ∀ a b c, le a b = true → le b c = true → le a c = true)
  (total : ∀ a b, (le a b || le b a) = true)

include trans total

/-- An element is put between those that have to stand before it and the rest. -/
theorem mergeSort_cons_eq (a : α) (l : List α) :
    (a :: l).mergeSort le =
      (l.mergeSort le).filter (!le a ·) ++ a :: (l.mergeSort le).filter (le a ·) := by
  obtain ⟨before, after, hcons, hrest, hbefore⟩ := List.mergeSort_cons trans total a l
  have hsorted := List.pairwise_mergeSort trans total (a :: l)
  rw [hcons, List.pairwise_append, List.pairwise_cons] at hsorted
  have hafter : ∀ b ∈ after, le a b = true := hsorted.2.1.1
  have hfirst : (before ++ after).filter (!le a ·) = before := by
    rw [List.filter_append, List.filter_eq_self.2 hbefore, List.filter_eq_nil_iff.2,
      List.append_nil]
    intro b hb
    rw [hafter b hb]
    exact Bool.false_ne_true
  have hlast : (before ++ after).filter (le a ·) = after := by
    rw [List.filter_append, List.filter_eq_self.2 hafter, List.filter_eq_nil_iff.2,
      List.nil_append]
    intro b hb h
    have hnot := hbefore b hb
    rw [h] at hnot
    cases hnot
  rw [hcons, hrest, hfirst, hlast]

/-- Whether elements are chosen before or after they are sorted cannot be seen. -/
theorem filter_mergeSort (p : α → Bool) (l : List α) :
    (l.mergeSort le).filter p = (l.filter p).mergeSort le := by
  induction l with
  | nil => rw [List.mergeSort_nil, List.filter_nil, List.mergeSort_nil]
  | cons a l ih =>
    by_cases ha : p a = true
    · rw [List.filter_cons_of_pos ha, mergeSort_cons_eq trans total, mergeSort_cons_eq trans total,
        ← ih, List.filter_append, List.filter_cons_of_pos ha, List.filter_comm p,
        List.filter_comm p]
    · -- Wherever the element was put, it is not chosen there.
      obtain ⟨before, after, hcons, hrest, -⟩ := List.mergeSort_cons trans total a l
      rw [List.filter_cons_of_neg ha, ← ih, hcons, hrest, List.filter_append, List.filter_append,
        List.filter_cons_of_neg ha]

/-- Where the order decides between any two elements, it does not matter how they are given. -/
theorem mergeSort_eq_of_perm {l l' : List α} (hperm : l'.Perm l)
    (antisymm : ∀ a ∈ l, ∀ b ∈ l, le a b = true → le b a = true → a = b) :
    l'.mergeSort le = l.mergeSort le := by
  have hall : (l'.mergeSort le).Perm l := (l'.mergeSort_perm le).trans hperm
  refine List.Perm.eq_of_pairwise ?_ (List.pairwise_mergeSort trans total l')
    (List.pairwise_mergeSort trans total l) (hall.trans (l.mergeSort_perm le).symm)
  intro a b ha hb
  exact antisymm a (hall.mem_iff.1 ha) b ((l.mergeSort_perm le).mem_iff.1 hb)

end Sorting

/-! ## The order of instants -/

namespace Instant

/-- An instant comes before another in an earlier second, or earlier in the same one. In its second
of Unix time a leap second comes last. -/
def Before (a b : Instant) : Prop :=
  a.seconds < b.seconds ∨ a.seconds = b.seconds ∧ a.nanos < b.nanos

theorem compare_eq_lt_iff {a b : Instant} : compare a b = .lt ↔ a.Before b := by
  rw [compare, Ordering.then_eq_lt, Int.compare_eq_lt, Int.compare_eq_eq, Nat.compare_eq_lt, Before]

theorem compare_eq_gt_iff {a b : Instant} : compare a b = .gt ↔ b.Before a := by
  rw [compare, Ordering.then_eq_gt, Int.compare_eq_gt, Int.compare_eq_eq, Nat.compare_eq_gt, Before,
    eq_comm (a := b.seconds)]

theorem compare_eq_eq_iff {a b : Instant} : compare a b = .eq ↔ a = b := by
  rw [compare, Ordering.then_eq_eq, Int.compare_eq_eq, Nat.compare_eq_eq]
  cases a
  cases b
  rw [Instant.mk.injEq]

theorem Before.irrefl (a : Instant) : ¬a.Before a := by
  simp only [Before]
  omega

theorem Before.asymm {a b : Instant} (h : a.Before b) : ¬b.Before a := by
  simp only [Before] at h ⊢
  omega

theorem not_before_trans {a b c : Instant} (hab : ¬a.Before b) (hbc : ¬b.Before c) :
    ¬a.Before c := by
  simp only [Before] at hab hbc ⊢
  omega

theorem eq_of_not_before {a b : Instant} (hab : ¬a.Before b) (hba : ¬b.Before a) : a = b := by
  simp only [Before] at hab hba
  have hseconds : a.seconds = b.seconds := by omega
  have hnanos : a.nanos = b.nanos := by omega
  cases a
  cases b
  rw [mk.injEq]
  exact ⟨hseconds, hnanos⟩

end Instant

namespace Task

/-! ## The order of a listing -/

theorem listedBefore_iff {a b : Task} :
    listedBefore a b = true ↔
      ¬a.updatedAt.Before b.updatedAt ∧ (a.updatedAt = b.updatedAt → a.id ≤ b.id) := by
  unfold listedBefore
  cases h : b.updatedAt.compare a.updatedAt with
  | lt =>
    have hbefore := Instant.compare_eq_lt_iff.1 h
    refine iff_of_true rfl ⟨hbefore.asymm, fun heq => ?_⟩
    rw [heq] at hbefore
    exact absurd hbefore (Instant.Before.irrefl _)
  | gt => exact iff_of_false Bool.false_ne_true fun hab => hab.1 (Instant.compare_eq_gt_iff.1 h)
  | eq =>
    rw [Instant.compare_eq_eq_iff.1 h, and_iff_right (Instant.Before.irrefl _),
      forall_prop_of_true rfl, Bool.not_eq_true', decide_eq_false_iff_not, String.not_lt]

theorem listedBefore_trans (a b c : Task) (hab : listedBefore a b = true)
    (hbc : listedBefore b c = true) : listedBefore a c = true := by
  rw [listedBefore_iff] at hab hbc ⊢
  refine ⟨Instant.not_before_trans hab.1 hbc.1, fun hac => ?_⟩
  -- What stands between two tasks of one instant is of this instant too.
  have heq : a.updatedAt = b.updatedAt := Instant.eq_of_not_before hab.1 (hac ▸ hbc.1)
  exact String.le_trans (hab.2 heq) (hbc.2 (heq.symm.trans hac))

theorem listedBefore_total (a b : Task) : (listedBefore a b || listedBefore b a) = true := by
  rw [Bool.or_eq_true, listedBefore_iff, listedBefore_iff]
  by_cases hab : a.updatedAt.Before b.updatedAt
  · exact .inr ⟨hab.asymm, fun heq => absurd (heq ▸ hab) (Instant.Before.irrefl _)⟩
  by_cases hba : b.updatedAt.Before a.updatedAt
  · exact .inl ⟨hab, fun heq => absurd (heq ▸ hba) (Instant.Before.irrefl _)⟩
  rcases String.le_total a.id b.id with h | h
  · exact .inl ⟨hab, fun _ => h⟩
  · exact .inr ⟨hba, fun _ => h⟩

/-- The order decides between tasks with different ids. -/
theorem id_eq_of_listedBefore {a b : Task} (hab : listedBefore a b = true)
    (hba : listedBefore b a = true) : a.id = b.id := by
  rw [listedBefore_iff] at hab hba
  have heq := Instant.eq_of_not_before hab.1 hba.1
  exact String.le_antisymm (hab.2 heq) (hba.2 heq.symm)

theorem pairwise_sortRecentFirst (tasks : List Task) :
    (sortRecentFirst tasks).Pairwise fun a b =>
      ¬a.updatedAt.Before b.updatedAt ∧ (a.updatedAt = b.updatedAt → a.id ≤ b.id) :=
  (List.pairwise_mergeSort listedBefore_trans listedBefore_total tasks).imp listedBefore_iff.1

theorem filter_sortRecentFirst (p : Task → Bool) (tasks : List Task) :
    (sortRecentFirst tasks).filter p = sortRecentFirst (tasks.filter p) :=
  filter_mergeSort listedBefore_trans listedBefore_total p tasks

/-- Tasks that tie stay as they are. -/
theorem sortRecentFirst_of_ties (t : Instant) (id : String) {tasks : List Task}
    (h : ∀ task ∈ tasks, task.updatedAt = t ∧ task.id = id) : sortRecentFirst tasks = tasks := by
  refine List.mergeSort_of_pairwise (List.pairwise_of_forall_mem_list fun a ha b hb => ?_)
  obtain ⟨hat, haid⟩ := h a ha
  obtain ⟨hbt, hbid⟩ := h b hb
  rw [listedBefore_iff, hat, hbt, haid, hbid]
  exact ⟨Instant.Before.irrefl t, fun _ => String.le_refl id⟩

/-- Tasks with different ids are listed in the same way, however they are given. -/
theorem sortRecentFirst_eq_of_perm {tasks others : List Task} (hperm : others.Perm tasks)
    (hids : (tasks.map (·.id)).Nodup) : sortRecentFirst others = sortRecentFirst tasks := by
  refine mergeSort_eq_of_perm listedBefore_trans listedBefore_total hperm ?_
  intro a ha b hb hab hba
  exact List.inj_on_of_nodup_map hids ha hb (id_eq_of_listedBefore hab hba)

/-! ## Reports in another order -/

/-- If the tasks of a report can be read, so they can be in any other order. -/
theorem exists_mapM_ofWire_of_perm {raws others : List Wire.Task} (hperm : raws.Perm others)
    {tasks : List Task} (h : raws.mapM ofWire = .ok tasks) :
    ∃ tasks', others.mapM ofWire = .ok tasks' ∧ tasks'.Perm tasks := by
  induction hperm generalizing tasks with
  | nil => exact ⟨tasks, h, .refl tasks⟩
  | cons raw _ ih =>
    simp only [List.mapM_cons, bind_eq_ok_iff, pure, Except.pure, Except.ok.injEq] at h ⊢
    obtain ⟨task, htask, rest, hrest, rfl⟩ := h
    obtain ⟨rest', hrest', hperm'⟩ := ih hrest
    exact ⟨task :: rest', ⟨task, htask, rest', hrest', rfl⟩, hperm'.cons task⟩
  | swap first second raws =>
    simp only [List.mapM_cons, bind_eq_ok_iff, pure, Except.pure, Except.ok.injEq] at h ⊢
    obtain ⟨a, ha, _, ⟨b, hb, rest, hrest, rfl⟩, rfl⟩ := h
    exact ⟨b :: a :: rest, ⟨b, hb, a :: rest, ⟨a, ha, rest, hrest, rfl⟩, rfl⟩, .swap a b rest⟩
  | trans _ _ ih₁ ih₂ =>
    obtain ⟨tasks₁, h₁, hperm₁⟩ := ih₁ h
    obtain ⟨tasks₂, h₂, hperm₂⟩ := ih₂ h₁
    exact ⟨tasks₂, h₂, hperm₂.trans hperm₁⟩

end Task

/-- What the listing command prints. -/
theorem Command.run_tasks {registry : Registry} {daemon : Option String} {client : Client}
    {net : Network} {tasks : List Task} (hclient : clientOf registry daemon = .ok client)
    (hlisted : (client.list net).1 = .ok tasks) :
    (run registry (.tasks daemon) net).1 =
      .ok ((Task.sortRecentFirst tasks).map Task.listingLine) := by
  rw [run, hclient]
  dsimp only
  rw [hlisted]
  rfl

namespace Task

/-- What the order of a listing promises. -/
structure OneOrder (tasks : List Task) : Prop where
  perm : (sortRecentFirst tasks).Perm tasks
  /-- No task was updated before one that is listed after it. -/
  recent : (sortRecentFirst tasks).Pairwise fun a b => ¬a.updatedAt.Before b.updatedAt
  byId : (sortRecentFirst tasks).Pairwise fun a b => a.updatedAt = b.updatedAt → a.id ≤ b.id
  /-- Tasks that tie keep their order. -/
  stable : ∀ (t : Instant) (id : String),
    (sortRecentFirst tasks).filter (fun task => task.updatedAt = t ∧ task.id = id) =
      tasks.filter fun task => task.updatedAt = t ∧ task.id = id
  filtered : ∀ f : TaskFilter, f.apply (sortRecentFirst tasks) = sortRecentFirst (f.apply tasks)
  /-- Tasks with different ids are listed in one way only. -/
  reordered : ∀ {others : List Task}, others.Perm tasks → (tasks.map (·.id)).Nodup →
    sortRecentFirst others = sortRecentFirst tasks
  /-- A daemon that reports the tasks in another order is not told apart. -/
  reported : ∀ {raws others : List Wire.Task}, raws.mapM ofWire = .ok tasks → others.Perm raws →
    (tasks.map (·.id)).Nodup →
      ∃ tasks', others.mapM ofWire = .ok tasks' ∧ sortRecentFirst tasks' = sortRecentFirst tasks
  /-- The listing command prints the same lines for it. -/
  printed : ∀ {registry : Registry} {daemon : Option String} {client : Client} {net net' : Network}
    {others : List Task}, Command.clientOf registry daemon = .ok client →
      (client.list net).1 = .ok tasks → (client.list net').1 = .ok others → others.Perm tasks →
        (tasks.map (·.id)).Nodup →
          (Command.run registry (.tasks daemon) net').1 =
            (Command.run registry (.tasks daemon) net).1

/-- The listing of any tasks has an order that keeps all of this. -/
theorem listings_have_one_order (tasks : List Task) : OneOrder tasks where
  perm := tasks.mergeSort_perm listedBefore
  recent := (pairwise_sortRecentFirst tasks).imp And.left
  byId := (pairwise_sortRecentFirst tasks).imp And.right
  stable t id := by
    rw [filter_sortRecentFirst]
    refine sortRecentFirst_of_ties t id fun task htask => ?_
    exact of_decide_eq_true (List.mem_filter.1 htask).2
  filtered f := filter_sortRecentFirst f.matchesTask tasks
  reordered := sortRecentFirst_eq_of_perm
  reported hraws hperm hids := by
    obtain ⟨tasks', htasks', hperm'⟩ := exists_mapM_ofWire_of_perm hperm.symm hraws
    exact ⟨tasks', htasks', sortRecentFirst_eq_of_perm hperm' hids⟩
  printed hclient hlisted hlisted' hperm hids := by
    rw [Command.run_tasks hclient hlisted, Command.run_tasks hclient hlisted',
      sortRecentFirst_eq_of_perm hperm hids]

/-- A leap second comes between the second whose Unix time it has and the next one. -/
example :
    (sortRecentFirst [{ id := "b", updatedAt := ⟨59, 999999999⟩ },
      { id := "next", updatedAt := ⟨60, 0⟩ }, { id := "leap", updatedAt := ⟨59, 1000000000⟩ },
      { id := "a", updatedAt := ⟨59, 999999999⟩ }]).map (·.id) = ["next", "leap", "a", "b"] := by
  cbv

end Task

end TaskWatch
