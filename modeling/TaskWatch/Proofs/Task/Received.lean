import TaskWatch.Client.Answer
import TaskWatch.Proofs.Task.Event

/-!
# Tasks that a daemon sends

A task that comes over the wire can be read unless one of its three time fields is *spoiled*: it
holds a text that is neither blank nor a time.

* `Task.received`: the first spoiled field is the failure, and nothing else is one; a time of a
  progress entry that cannot be read is the zero instant;
* `Task.allReceived`: a list of tasks is read as a whole, or its first spoiled task is the failure.
-/

namespace TaskWatch

namespace Wire.Task

/-- The time fields of a task, in the order in which they are read. -/
def times (raw : Wire.Task) : List (TimeField × String) :=
  [(.createdAt, raw.createdAt), (.updatedAt, raw.updatedAt), (.completedAt, raw.completedAt)]

/-- The first time field with a text that is neither blank nor a time. -/
def spoiled? (raw : Wire.Task) : Option TimeField :=
  (raw.times.find? fun time => (Instant.ofText? time.2).isNone).map (·.1)

end Wire.Task

namespace Task

theorem readTime_of_some {s : String} {t : Instant} (h : Instant.ofText? s = some t)
    (field : TimeField) : readTime field s = .ok t := by
  rw [readTime, h]

theorem readTime_of_none {s : String} (h : Instant.ofText? s = none) (field : TimeField) :
    readTime field s = .error (.timestamp field) := by
  rw [readTime, h]

theorem readCompletion_of_some {s : String} {t : Instant} (h : Instant.ofText? s = some t) :
    ∃ completedAt, readCompletion s = .ok completedAt := by
  rw [readCompletion]
  split
  · exact ⟨none, rfl⟩
  · rw [readTime_of_some h]
    exact ⟨some t, rfl⟩

theorem readCompletion_of_none {s : String} (h : Instant.ofText? s = none) :
    readCompletion s = .error (.timestamp .completedAt) := by
  rw [readCompletion]
  split
  · next hblank =>
    rw [Instant.ofText?, if_pos hblank] at h
    cases h
  · rw [readTime_of_none h]
    rfl

/-- Whether a task is read is up to its time fields. -/
theorem ofWire_by_times (raw : Wire.Task) :
    (∀ field, raw.spoiled? = some field → ofWire raw = .error (.timestamp field)) ∧
      (raw.spoiled? = none → ∃ task, ofWire raw = .ok task) := by
  rw [ofWire_eq, Wire.Task.spoiled?, Wire.Task.times]
  cases hcreated : Instant.ofText? raw.createdAt with
  | none =>
    rw [readTime_of_none hcreated, List.find?_cons_of_pos (by rw [hcreated]; rfl)]
    exact ⟨fun _ h => Option.some.inj h ▸ rfl, nofun⟩
  | some createdAt =>
    rw [readTime_of_some hcreated, List.find?_cons_of_neg (by rw [hcreated]; exact nofun)]
    cases hupdated : Instant.ofText? raw.updatedAt with
    | none =>
      rw [readTime_of_none hupdated, List.find?_cons_of_pos (by rw [hupdated]; rfl)]
      exact ⟨fun _ h => Option.some.inj h ▸ rfl, nofun⟩
    | some updatedAt =>
      rw [readTime_of_some hupdated, List.find?_cons_of_neg (by rw [hupdated]; exact nofun)]
      cases hcompleted : Instant.ofText? raw.completedAt with
      | none =>
        rw [readCompletion_of_none hcompleted, List.find?_cons_of_pos (by rw [hcompleted]; rfl)]
        exact ⟨fun _ h => Option.some.inj h ▸ rfl, nofun⟩
      | some t =>
        obtain ⟨completedAt, hread⟩ := readCompletion_of_some hcompleted
        rw [hread, List.find?_cons_of_neg (by rw [hcompleted]; exact nofun)]
        exact ⟨nofun, fun _ => ⟨_, rfl⟩⟩

/-- The times of the progress entries, as far as they can be read. -/
theorem progress_of_ofWire {raw : Wire.Task} {task : Task} (h : ofWire raw = .ok task) :
    task.progress.map (·.timestamp) =
      raw.progress.map fun p => (Instant.ofText? p.timestamp).getD .zero := by
  obtain ⟨createdAt, -, updatedAt, -, completedAt, -, rfl⟩ := ofWire_eq_ok_iff.1 h
  exact List.map_map

/-- What becomes of a task that a daemon sends. -/
structure Received (raw : Wire.Task) (result : Except ClientError Task) : Prop where
  spoiled : ∀ {field}, raw.spoiled? = some field → result = .error (.timestamp field)
  /-- The task is read, and a time of its progress that cannot be read is none. -/
  sound : raw.spoiled? = none → ∃ task, result = .ok task ∧ ofWire raw = .ok task ∧
    task.progress.map (·.timestamp) =
      raw.progress.map fun p => (Instant.ofText? p.timestamp).getD .zero

theorem received (raw : Wire.Task) : Received raw (ofWire raw) where
  spoiled h := (ofWire_by_times raw).1 _ h
  sound h := by
    obtain ⟨task, htask⟩ := (ofWire_by_times raw).2 h
    exact ⟨task, htask, htask, progress_of_ofWire htask⟩

/-! ## Lists of tasks -/

/-- What becomes of the tasks that a daemon sends. -/
structure AllReceived (raws : List Wire.Task) (result : Except ClientError (List Task)) : Prop where
  /-- The first task with a spoiled time field is the failure, and nothing of the others is told. -/
  spoiled : ∀ {before raw after field}, raws = before ++ raw :: after →
    (∀ r ∈ before, r.spoiled? = none) → raw.spoiled? = some field →
      result = .error (.timestamp field)
  /-- Otherwise there is one task for each that was sent, in the order in which they were sent. -/
  sound : (∀ raw ∈ raws, raw.spoiled? = none) →
    ∃ tasks, result = .ok tasks ∧ List.Forall₂ (fun raw task => Received raw (.ok task)) raws tasks

/-- Tasks that are all read. -/
theorem mapM_ofWire_of_sound {raws : List Wire.Task} (h : ∀ raw ∈ raws, raw.spoiled? = none) :
    ∃ tasks, raws.mapM ofWire = .ok tasks ∧
      List.Forall₂ (fun raw task => ofWire raw = .ok task) raws tasks := by
  induction raws with
  | nil => exact ⟨[], rfl, .nil⟩
  | cons raw rest ih =>
    obtain ⟨hraw, hrest⟩ := List.forall_mem_cons.1 h
    obtain ⟨task, htask⟩ := (ofWire_by_times raw).2 hraw
    obtain ⟨tasks, htasks, hall⟩ := ih hrest
    refine ⟨task :: tasks, ?_, .cons htask hall⟩
    rw [List.mapM_cons, htask, htasks]
    rfl

/-- Tasks of which one cannot be read. -/
theorem mapM_ofWire_of_spoiled {before after : List Wire.Task} {raw : Wire.Task} {field : TimeField}
    (hbefore : ∀ r ∈ before, r.spoiled? = none) (hraw : raw.spoiled? = some field) :
    (before ++ raw :: after).mapM ofWire = .error (.timestamp field) := by
  obtain ⟨tasks, htasks, -⟩ := mapM_ofWire_of_sound hbefore
  rw [List.mapM_append, htasks, List.mapM_cons, (ofWire_by_times raw).1 field hraw]
  rfl

theorem allReceived (raws : List Wire.Task) : AllReceived raws (raws.mapM ofWire) where
  spoiled h hbefore hraw := h ▸ mapM_ofWire_of_spoiled hbefore hraw
  sound h := by
    obtain ⟨tasks, htasks, hall⟩ := mapM_ofWire_of_sound h
    exact ⟨tasks, htasks, hall.imp fun raw _ htask => htask ▸ received raw⟩

end Task

end TaskWatch
