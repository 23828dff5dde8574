import TaskWatch.Proofs.Steps
import TaskWatch.Proofs.Task.Time
import TaskWatch.Proofs.Wire.Messages
import TaskWatch.Task.Event

/-!
# Events are read back

An event that was read from a line is read back from its own text exactly when its times last
(`Event.ofLine_text_iff`): their years have four digits, and the task was not completed at the zero
instant. Texts that were trimmed, a kind that was folded and times that were read do not change
when they are read again, so nothing else can be lost.

The zero instant stands for an unknown time and is written as the empty text. A time that has to be
there is read as the zero instant again, but a completion time that is empty is read as absent
(`completion_at_zero_is_lost`).
-/

namespace TaskWatch

/-! ## Kinds -/

/-- A kind is read back from its name. -/
theorem EventKind.ofName_name (raw : String) : ofName (ofName raw).name = ofName raw := by
  simp only [ofName]
  split
  · decide
  split
  · decide
  split
  · decide
  split
  · decide
  split
  · decide
  · next hsnapshot hprogress hcompleted hfailed hdeleted =>
    rw [name, Text.trim_trim, if_neg hsnapshot, if_neg hprogress, if_neg hcompleted,
      if_neg hfailed, if_neg hdeleted]

/-! ## Progress entries -/

theorem Progress.onClock_ofWire (raw : Wire.Progress) : (ofWire raw).timestamp.OnClock := by
  rw [ofWire]
  cases h : Instant.ofText? raw.timestamp with
  | none => exact Instant.onClock_zero
  | some t => exact Instant.onClock_of_ofText? h

/-- An entry that was read is the same when it is read again, if the year of its time has four
digits; otherwise the time becomes the zero instant. -/
theorem Progress.ofWire_toWire (raw : Wire.Progress) :
    ofWire (ofWire raw).toWire = ofWire raw ↔ (ofWire raw).timestamp.InYears := by
  have hread := Instant.ofText?_text (onClock_ofWire raw)
  by_cases hyears : (ofWire raw).timestamp.InYears
  · rw [if_pos hyears] at hread
    refine iff_of_true ?_ hyears
    rw [ofWire, toWire, hread]
    simp only [ofWire, Text.trim_trim, Option.getD_some]
  · rw [if_neg hyears] at hread
    refine iff_of_false (fun heq => hyears ?_) hyears
    have htime : (Instant.ofText? (ofWire raw).timestamp.text).getD .zero =
        (ofWire raw).timestamp := congrArg Progress.timestamp heq
    rw [hread] at htime
    exact htime ▸ Instant.inYears_zero

/-! ## Tasks -/

/-- The times of a task outlast being written: their years have four digits, and the completion
time is not the zero instant. -/
structure Task.Lasts (t : Task) : Prop where
  created : t.createdAt.InYears
  updated : t.updatedAt.InYears
  completed : ∀ c ∈ t.completedAt, c.InYears ∧ c ≠ .zero
  progress : ∀ p ∈ t.progress, p.timestamp.InYears

namespace Task

/-- The completion time of a time field, which is absent when the field is blank. -/
def readCompletion (s : String) : Except ClientError (Option Instant) :=
  if Text.isBlank s then .ok none else (readTime .completedAt s).map some

theorem readCompletion_eq_some_iff {s : String} {c : Instant} :
    readCompletion s = .ok (some c) ↔ Text.isBlank s = false ∧ readTime .completedAt s = .ok c := by
  rw [readCompletion]
  cases Text.isBlank s with
  | false => exact map_some_eq_ok_iff.trans (iff_and_self.mpr fun _ => rfl)
  | true => exact iff_of_false (fun h => nomatch h) fun h => nomatch h.1

theorem readCompletion_text_iff {completedAt : Option Instant}
    (hclock : ∀ c ∈ completedAt, c.OnClock) :
    readCompletion ((completedAt.map Instant.text).getD "") = .ok completedAt ↔
      ∀ c ∈ completedAt, c.InYears ∧ c ≠ .zero := by
  cases completedAt with
  | none => exact iff_of_true rfl fun c hc => nomatch hc
  | some c =>
    have hread : readTime .completedAt c.text = .ok c ↔ c.InYears :=
      readTime_text_iff (hclock c rfl)
    rw [Option.map_some, Option.getD_some, readCompletion_eq_some_iff, hread, Instant.isBlank_text,
      decide_eq_false_iff_not]
    constructor
    · rintro ⟨hzero, hyears⟩ _ ⟨⟩
      exact ⟨hyears, hzero⟩
    · intro h
      exact (h c rfl).symm

/-- The texts of a task that came over the wire, without its times and its progress. -/
def texts (raw : Wire.Task) : Task where
  id := Text.trim raw.id
  toolName := Text.trim raw.toolName
  args := raw.args
  workingDir := Text.trim raw.workingDir
  sessionId := Text.trim raw.sessionId
  callId := Text.trim raw.callId
  origin := Text.trim raw.origin
  clientId := Text.trim raw.clientId
  mode := Text.trim raw.mode
  agentName := Text.trim raw.agentName
  commandName := Text.trim raw.commandName
  commandArgs := Text.trim raw.commandArgs
  status := Text.trim raw.status
  result := raw.result
  metadata := raw.metadata
  error := raw.error

theorem ofWire_eq (raw : Wire.Task) :
    ofWire raw = (do
      let createdAt ← readTime .createdAt raw.createdAt
      let updatedAt ← readTime .updatedAt raw.updatedAt
      let completedAt ← readCompletion raw.completedAt
      return { texts raw with
        createdAt := createdAt
        updatedAt := updatedAt
        completedAt := completedAt
        progress := raw.progress.map Progress.ofWire }) := by
  unfold ofWire readCompletion
  cases Text.isBlank raw.completedAt <;> rfl

theorem ofWire_eq_ok_iff {raw : Wire.Task} {t : Task} :
    ofWire raw = .ok t ↔ ∃ createdAt, readTime .createdAt raw.createdAt = .ok createdAt ∧
      ∃ updatedAt, readTime .updatedAt raw.updatedAt = .ok updatedAt ∧
      ∃ completedAt, readCompletion raw.completedAt = .ok completedAt ∧
      { texts raw with
        createdAt := createdAt
        updatedAt := updatedAt
        completedAt := completedAt
        progress := raw.progress.map Progress.ofWire } = t := by
  rw [ofWire_eq]
  simp only [bind_eq_ok_iff, pure, Except.pure, Except.ok.injEq]

theorem texts_toWire (raw : Wire.Task) (createdAt updatedAt : Instant)
    (completedAt : Option Instant) (progress : List Progress) :
    texts (toWire { texts raw with
      createdAt := createdAt
      updatedAt := updatedAt
      completedAt := completedAt
      progress := progress }) = texts raw := by
  simp only [texts, toWire, Text.trim_trim]

theorem map_ofWire_toWire (raws : List Wire.Progress) :
    ((raws.map Progress.ofWire).map Progress.toWire).map Progress.ofWire =
      raws.map Progress.ofWire ↔ ∀ p ∈ raws.map Progress.ofWire, p.timestamp.InYears := by
  simp only [List.map_map, List.forall_mem_map, List.map_inj_left, Function.comp_apply,
    Progress.ofWire_toWire]

/-- A task that was read is read again as it is exactly when its times last. -/
theorem ofWire_toWire_iff {raw : Wire.Task} {t : Task} (h : ofWire raw = .ok t) :
    ofWire t.toWire = .ok t ↔ t.Lasts := by
  obtain ⟨createdAt, hcreated, updatedAt, hupdated, completedAt, hcompleted, rfl⟩ :=
    ofWire_eq_ok_iff.mp h
  have created : readTime .createdAt createdAt.text = .ok createdAt ↔ createdAt.InYears :=
    readTime_text_iff (onClock_of_readTime hcreated)
  have updated : readTime .updatedAt updatedAt.text = .ok updatedAt ↔ updatedAt.InYears :=
    readTime_text_iff (onClock_of_readTime hupdated)
  have completed := readCompletion_text_iff fun c (hc : completedAt = some c) =>
    onClock_of_readTime (readCompletion_eq_some_iff.mp (hc ▸ hcompleted)).2
  have progress := map_ofWire_toWire raw.progress
  rw [ofWire_eq_ok_iff]
  constructor
  · rintro ⟨createdAt', hcreated, updatedAt', hupdated, completedAt', hcompleted, heq⟩
    obtain rfl : createdAt' = createdAt := congrArg Task.createdAt heq
    obtain rfl : updatedAt' = updatedAt := congrArg Task.updatedAt heq
    obtain rfl : completedAt' = completedAt := congrArg Task.completedAt heq
    exact ⟨created.mp hcreated, updated.mp hupdated, completed.mp hcompleted,
      progress.mp (congrArg Task.progress heq)⟩
  · intro lasts
    refine ⟨createdAt, created.mpr lasts.created, updatedAt, updated.mpr lasts.updated,
      completedAt, completed.mpr lasts.completed, ?_⟩
    rw [texts_toWire]
    simp only [toWire, progress.mpr lasts.progress]

end Task

/-! ## Events -/

/-- The times of an event outlast being written. -/
structure Event.Lasts (e : Event) : Prop where
  task : ∀ t ∈ e.task, t.Lasts
  progress : ∀ p ∈ e.progress, p.timestamp.InYears

namespace Event

/-- The task of an event, when it has one. -/
def readTask : Option Wire.Task → Except ClientError (Option Task)
  | none => .ok none
  | some raw => (Task.ofWire raw).map some

theorem readTask_eq_some {raw : Option Wire.Task} {t : Task} (h : readTask raw = .ok (some t)) :
    ∃ task, Task.ofWire task = .ok t := by
  cases raw with
  | none => cases h
  | some raw => exact ⟨raw, map_some_eq_ok_iff.mp h⟩

theorem readTask_toWire_iff {raw : Option Wire.Task} {task : Option Task}
    (h : readTask raw = .ok task) :
    readTask (task.map Task.toWire) = .ok task ↔ ∀ t ∈ task, t.Lasts := by
  cases task with
  | none => exact iff_of_true rfl fun t ht => nomatch ht
  | some t =>
    obtain ⟨raw, hraw⟩ := readTask_eq_some h
    rw [Option.map_some, readTask, map_some_eq_ok_iff, Task.ofWire_toWire_iff hraw]
    constructor
    · rintro hlasts _ ⟨⟩
      exact hlasts
    · exact fun hlasts => hlasts t rfl

theorem ofWire_eq (raw : Wire.Event) :
    ofWire raw = (do
      let task ← readTask raw.task
      return {
        kind := EventKind.ofName raw.kind
        task := task
        progress := raw.progress.map Progress.ofWire
        error := Text.trim raw.error }) := by
  unfold ofWire readTask
  cases raw.task <;> rfl

theorem ofWire_eq_ok_iff {raw : Wire.Event} {e : Event} :
    ofWire raw = .ok e ↔ ∃ task, readTask raw.task = .ok task ∧
      { kind := EventKind.ofName raw.kind
        task := task
        progress := raw.progress.map Progress.ofWire
        error := Text.trim raw.error } = e := by
  rw [ofWire_eq]
  simp only [bind_eq_ok_iff, pure, Except.pure, Except.ok.injEq]

theorem map_ofWire_toWire (raw : Option Wire.Progress) :
    ((raw.map Progress.ofWire).map Progress.toWire).map Progress.ofWire =
      raw.map Progress.ofWire ↔ ∀ p ∈ raw.map Progress.ofWire, p.timestamp.InYears := by
  cases raw with
  | none => exact iff_of_true rfl fun p hp => nomatch hp
  | some p =>
    simp only [Option.map_some, Option.some.injEq, Progress.ofWire_toWire, Option.mem_def,
      forall_eq']

/-- An event that was read is read again as it is exactly when its times last. -/
theorem ofWire_toWire_iff {raw : Wire.Event} {e : Event} (h : ofWire raw = .ok e) :
    ofWire e.toWire = .ok e ↔ e.Lasts := by
  obtain ⟨task, htask, rfl⟩ := ofWire_eq_ok_iff.mp h
  have tasks := readTask_toWire_iff htask
  have progress := map_ofWire_toWire raw.progress
  rw [ofWire_eq_ok_iff]
  constructor
  · rintro ⟨task', htask, heq⟩
    obtain rfl : task' = task := congrArg Event.task heq
    exact ⟨tasks.mp htask, progress.mp (congrArg Event.progress heq)⟩
  · intro lasts
    refine ⟨task, tasks.mpr lasts.task, ?_⟩
    simp only [toWire, EventKind.ofName_name, progress.mpr lasts.progress, Text.trim_trim]

/-- An event of a line is read back from its own text exactly when its times last. -/
theorem ofLine_text_iff {line : String} {e : Event} (h : ofLine line = .ok e) :
    ofLine e.text = .ok e ↔ e.Lasts := by
  have hread : ofLine e.text = ofWire e.toWire := by
    rw [ofLine, text, Wire.Event.ofText?_text]
  rw [hread]
  rw [ofLine] at h
  split at h
  · cases h
  · exact ofWire_toWire_iff h

/-- A task that was completed in a leap second is read back. -/
theorem leap_second_lasts :
    let line := "\x7b\"type\":\" Completed \",\"task\":\x7b\"id\":\"t\"," ++
      "\"completed_at\":\"2017-01-01T00:59:60.25+01:00\"\x7d\x7d"
    let e : Event := {
      kind := .completed
      task := some { id := "t", completedAt := some ⟨1483228799, 1250000000⟩ } }
    ofLine line = .ok e ∧ ofLine e.text = .ok e := by
  intro line e
  have h : ofLine line = .ok e := by decide +kernel
  have lasts : e.Lasts := by
    refine ⟨?_, fun p hp => nomatch hp⟩
    rintro _ ⟨⟩
    refine ⟨Instant.inYears_zero, Instant.inYears_zero, ?_, fun p hp => nomatch hp⟩
    rintro _ ⟨⟩
    decide
  exact ⟨h, (ofLine_text_iff h).mpr lasts⟩

/-- A task that was completed at the zero instant has no completion time when it is read again. -/
theorem completion_at_zero_is_lost :
    let line := "\x7b\"type\":\"completed\",\"task\":\x7b\"id\":\"t\"," ++
      "\"completed_at\":\"1970-01-01T00:00:00Z\"\x7d\x7d"
    let e : Event := {
      kind := .completed
      task := some { id := "t", completedAt := some .zero } }
    ofLine line = .ok e ∧
      ofLine e.text = .ok { kind := .completed, task := some { id := "t" } } := by
  decide +kernel

/-- An offset takes a time past the years that can be written, and the text cannot be read. -/
example :
    let line := "\x7b\"task\":\x7b\"id\":\"t\"," ++
      "\"created_at\":\"9999-12-31T23:59:59-01:00\"\x7d\x7d"
    let e : Event := {
      kind := .snapshot
      task := some { id := "t", createdAt := ⟨253402304399, 0⟩ } }
    ofLine line = .ok e ∧ ofLine e.text = .error (.timestamp .createdAt) := by
  decide +kernel

end Event

end TaskWatch
