import TaskWatch.Metadata.Submission
import TaskWatch.Proofs.Call.Closing
import TaskWatch.Proofs.Json.Kept
import TaskWatch.Proofs.Metadata.Lookup
import TaskWatch.Proofs.Metadata.Plain

/-!
# What is found again in the metadata of a submitted task

The metadata of a submitted task is a record of records. The names of each record ascend, and they
differ up to case and blanks, so the metadata is read back as it was written
(`decodeObject?_submission`), and a step of a chain finds what it looks for where it was put, or not
at all.

* `taskId?_submission`: of the ids in the metadata, that of the task is found;
* `label?_submission`: the label is that of the context;
* `ofText_submission`: all that the text of the metadata says.
-/

namespace TaskWatch.Metadata

/-- The label to find again: the first that is not blank of the label of the first name that is not
blank, the label of the command, and the agent. -/
def SubmissionLabels.shown? (labels : SubmissionLabels) (catalog : Catalog) : Option String :=
  let named := Text.firstNonBlank?
    [labels.commandLabel, labels.progressLabel, labels.command, labels.tool]
  Text.firstNonBlank?
    [catalog.labelFor (named.getD ""), catalog.labelFor labels.command, labels.agent]

/-! ## The records -/

def taskNames : List String := ["call_id", "id", "session_id", "status", "tool"]

def taskFields (task : Task) : List (Option (String × Json)) :=
  [Json.member "call_id" (.string task.callId), Json.member "id" (.string task.id),
    Json.member "session_id" (.string task.sessionId), Json.member "status" (.string task.status),
    Json.member "tool" (.string task.toolName)]

theorem submittedTask_eq (task : Task) : submittedTask task = Json.record (taskFields task) := by
  rfl

def contextNames : List String := ["label", "name", "subtitle", "title"]

def contextFields (labels : SubmissionLabels) (catalog : Catalog) :
    List (Option (String × Json)) :=
  let label := Text.firstNonBlank?
    [labels.commandLabel, labels.progressLabel, labels.command, labels.tool]
  let title := Text.nonBlank? labels.command
  let agent := Text.nonBlank? labels.agent
  [label.map fun s => ("label", Json.string (catalog.labelFor s)),
    agent.map fun s => ("name", Json.string s),
    agent.map fun s => ("subtitle", Json.string s),
    title.map fun s => ("title", Json.string (catalog.labelFor s))]

theorem submittedContext_eq (labels : SubmissionLabels) (catalog : Catalog) :
    submittedContext labels catalog = (contextFields labels catalog).filterMap id := rfl

def submissionNames : List String := ["async_context", "async_task", "context"]

def submissionFields (task : Task) (labels : SubmissionLabels) (catalog : Catalog) :
    List (Option (String × Json)) :=
  let context := submittedContext labels catalog
  [if context.isEmpty then none else some ("async_context", .object context),
    Json.member "async_task" (submittedTask task),
    if context.isEmpty then none else some ("context", .object context)]

theorem submission_eq (task : Task) (labels : SubmissionLabels) (catalog : Catalog) :
    submission task labels catalog = Json.record (submissionFields task labels catalog) := by
  unfold submission submissionFields
  dsimp only
  cases (submittedContext labels catalog).isEmpty <;> rfl

theorem writes_map_string (name : String) (text : Option String) (f : String → String) :
    Json.Writes name (text.map fun s => (name, Json.string (f s))) := by
  cases text with
  | none => exact nofun
  | some s => exact Json.writes_string name (f s)

theorem writes_taskFields (task : Task) : List.Forall₂ Json.Writes taskNames (taskFields task) :=
  .cons (Json.writes_string _ _) <| .cons (Json.writes_string _ _) <|
    .cons (Json.writes_string _ _) <| .cons (Json.writes_string _ _) <|
      .cons (Json.writes_string _ _) .nil

theorem writes_contextFields (labels : SubmissionLabels) (catalog : Catalog) :
    List.Forall₂ Json.Writes contextNames (contextFields labels catalog) :=
  .cons (writes_map_string _ _ catalog.labelFor) <| .cons (writes_map_string _ _ id) <|
    .cons (writes_map_string _ _ id) <| .cons (writes_map_string _ _ catalog.labelFor) .nil

theorem writes_submissionFields (task : Task) (labels : SubmissionLabels) (catalog : Catalog) :
    List.Forall₂ Json.Writes submissionNames (submissionFields task labels catalog) := by
  have hcontext : (Json.object (submittedContext labels catalog)).Integral :=
    Fields.integral_of_writes (writes_contextFields labels catalog)
  have htask : (submittedTask task).Integral := by
    rw [submittedTask_eq]
    exact Fields.integral_of_writes (writes_taskFields task)
  have hpart (name : String) : Json.Writes name
      (if (submittedContext labels catalog).isEmpty then none
        else some (name, Json.object (submittedContext labels catalog))) := by
    split
    · exact nofun
    · exact Json.writes_member name hcontext
  exact .cons (hpart _) <| .cons (Json.writes_member _ htask) <| .cons (hpart _) .nil

/-! ## Reading the metadata back -/

/-- A record of tidy values is tidy if its names ascend. -/
theorem tidy_record {names : List String} {members : List (Option (String × Json))} {levels : Nat}
    (h : List.Forall₂ Json.Writes names members) (hnames : names.Pairwise (· < ·))
    (hvalues : ∀ member ∈ members, ∀ m ∈ member, m.2.Tidy levels) :
    (Json.record members).Tidy (levels + 1) := by
  refine Json.tidyMembers_of_forall (hnames.sublist (Fields.keys_sublist h)) fun m hm => ?_
  obtain ⟨member, hmember, rfl⟩ := List.mem_filterMap.1 hm
  exact hvalues _ hmember m rfl

theorem tidy_submittedTask (task : Task) (levels : Nat) :
    (submittedTask task).Tidy (levels + 1) := by
  rw [submittedTask_eq]
  refine tidy_record (writes_taskFields task) (by decide) ?_
  have htext (name text : String) :
      ∀ m ∈ Json.member name (.string text), m.2.Tidy levels := by
    intro m hm
    cases hm
    trivial
  simp only [taskFields, List.forall_mem_cons]
  exact ⟨htext _ _, htext _ _, htext _ _, htext _ _, htext _ _, nofun⟩

theorem tidy_submittedContext (labels : SubmissionLabels) (catalog : Catalog) (levels : Nat) :
    (Json.object (submittedContext labels catalog)).Tidy (levels + 1) := by
  refine tidy_record (writes_contextFields labels catalog) (by decide) ?_
  have htext (name : String) (text : Option String) (f : String → String) :
      ∀ m ∈ text.map fun s => (name, Json.string (f s)), m.2.Tidy levels := by
    intro m hm
    obtain ⟨s, -, rfl⟩ := Option.map_eq_some_iff.1 hm
    trivial
  simp only [List.forall_mem_cons]
  exact ⟨htext _ _ catalog.labelFor, htext _ _ id, htext _ _ id, htext _ _ catalog.labelFor, nofun⟩

theorem tidy_submission (task : Task) (labels : SubmissionLabels) (catalog : Catalog) :
    (submission task labels catalog).Tidy Document.greatestDepth := by
  have hcontext := tidy_submittedContext labels catalog 125
  have htask := tidy_submittedTask task 125
  rw [submission_eq]
  show (Json.record _).Tidy (126 + 1)
  refine tidy_record (writes_submissionFields task labels catalog) (by decide) ?_
  intro member hmember m hm
  simp only [submissionFields, List.mem_cons, List.not_mem_nil, or_false] at hmember
  obtain rfl | rfl | rfl := hmember
  · split at hm
    · cases hm
    · cases hm
      exact hcontext
  · cases hm
    exact htask
  · split at hm
    · cases hm
    · cases hm
      exact hcontext

theorem decodeObject?_submission (task : Task) (labels : SubmissionLabels) (catalog : Catalog) :
    decodeObject? (submission task labels catalog).text =
      some ((submissionFields task labels catalog).filterMap id) := by
  have hintegral : (submission task labels catalog).Integral := by
    rw [submission_eq]
    exact Fields.integral_of_writes (writes_submissionFields task labels catalog)
  have htrim : Text.trim (submission task labels catalog).text =
      (submission task labels catalog).text := by
    rw [submission_eq]
    exact Json.trim_text_object _
  rw [decodeObject?, htrim, Json.ofText?_text hintegral (tidy_submission task labels catalog),
    submission_eq]
  rfl

/-! ## The keys -/

/-- The names in the metadata of a submitted task, and the keys that are looked up in it. -/
def soughtKeys : List String :=
  taskNames ++ contextNames ++ submissionNames ++
    (taskIdChain ++ labelChain).flatMap Step.keys ++ ["progress"]

/-- All of them are in the form in which keys are compared. -/
theorem foldKey_sought : ∀ key ∈ soughtKeys, foldKey key = key := by decide +kernel

section

variable {names : List String} (hnames : ∀ name ∈ names, name ∈ soughtKeys)

include hnames

theorem map_foldKey : names.map foldKey = names :=
  (List.map_congr_left fun name hname => foldKey_sought name (hnames name hname)).trans
    (List.map_id names)

theorem nodup_foldKey (h : names.Nodup) : (names.map foldKey).Nodup := by
  rwa [map_foldKey hnames]

theorem foldKey_notMem {key : String} (hkey : key ∈ soughtKeys ∧ key ∉ names) :
    foldKey key ∉ names.map foldKey := by
  rw [foldKey_sought key hkey.1, map_foldKey hnames]
  exact hkey.2

end

/-! ## What is found -/

/-- The text in a member that holds a text. -/
theorem text_of_member (name : String) (text : Option String) (f : String → String) :
    ((text.map fun s => (name, Json.string (f s))).map (·.2)).bind textOf? =
      text.bind fun s => Text.nonBlank? (f s) := by
  cases text with
  | none => rfl
  | some s => rfl

/-- No name has the label of the empty name, which is none. -/
theorem bind_labelFor (catalog : Catalog) (name : Option String) :
    (name.bind fun s => Text.nonBlank? (catalog.labelFor s)) =
      Text.nonBlank? (catalog.labelFor (name.getD "")) := by
  cases name with
  | none =>
    have hlabel : catalog.labelFor "" = "" := by rw [Catalog.labelFor, if_pos Text.trim_empty]
    have hempty : Text.isBlank "" = true := rfl
    have hblank : Text.nonBlank? "" = none := by rw [Text.nonBlank?, if_pos hempty]
    rw [Option.getD_none, hlabel, hblank, Option.bind_none]
  | some s => rw [Option.getD_some, Option.bind_some]

theorem labelFor_nonBlank? (catalog : Catalog) (name : String) :
    catalog.labelFor ((Text.nonBlank? name).getD "") = catalog.labelFor name := by
  rw [Text.nonBlank?]
  split
  · next hblank =>
    rw [Catalog.labelFor, Catalog.labelFor, (Text.trim_eq_empty_iff name).2 hblank]
    rfl
  · rw [Option.getD_some, Catalog.labelFor, Catalog.labelFor, Text.trim_trim]

theorem bind_nonBlank? (text : String) :
    (Text.nonBlank? text).bind Text.nonBlank? = Text.nonBlank? text := by
  cases h : Text.nonBlank? text with
  | none => rfl
  | some kept => exact Text.nonBlank?_of_eq_some h

variable (task : Task) (labels : SubmissionLabels) (catalog : Catalog)

/-- The texts of the context are those of the labels. -/
theorem field?_submittedContext :
    field? (submittedContext labels catalog) ["label", "title", "name"] =
      labels.shown? catalog := by
  have hfields := writes_contextFields labels catalog
  have hnames : (contextNames.map foldKey).Nodup := nodup_foldKey (by decide) (by decide)
  have hlabel : (lookup? (submittedContext labels catalog) "label").bind textOf? =
      Text.nonBlank? (catalog.labelFor ((Text.firstNonBlank? [labels.commandLabel,
        labels.progressLabel, labels.command, labels.tool]).getD "")) := by
    rw [submittedContext_eq, lookup?_record hfields hnames (i := 0) rfl rfl, text_of_member,
      bind_labelFor]
  have htitle : (lookup? (submittedContext labels catalog) "title").bind textOf? =
      Text.nonBlank? (catalog.labelFor labels.command) := by
    rw [submittedContext_eq, lookup?_record hfields hnames (i := 3) rfl rfl, text_of_member,
      bind_labelFor, labelFor_nonBlank?]
  have hname : (lookup? (submittedContext labels catalog) "name").bind textOf? =
      Text.nonBlank? labels.agent := by
    rw [submittedContext_eq, lookup?_record hfields hnames (i := 1) rfl rfl]
    exact (text_of_member "name" _ id).trans (bind_nonBlank? labels.agent)
  simp only [field?, SubmissionLabels.shown?, Text.firstNonBlank?, List.findSome?_cons,
    List.findSome?_nil] at hlabel ⊢
  rw [hlabel, htitle, hname]

/-- The object of the context is found by its name, and found to be none if it is empty. -/
theorem stepText?_context (again : Members → Option String) :
    stepText? again ((submissionFields task labels catalog).filterMap id)
      (.nested "async_context" ["label", "title", "name"]) = labels.shown? catalog := by
  have hfield : lookup? ((submissionFields task labels catalog).filterMap id) "async_context" = _ :=
    lookup?_record (writes_submissionFields task labels catalog)
      (nodup_foldKey (by decide) (by decide)) (i := 0) rfl rfl
  have hcontext := field?_submittedContext labels catalog
  rw [stepText?, nestedObject, hfield]
  cases hempty : (submittedContext labels catalog).isEmpty with
  | true =>
    rw [List.isEmpty_iff.1 hempty] at hcontext
    exact hcontext
  | false =>
    rw [if_neg Bool.false_ne_true, Option.map_some]
    dsimp only
    rw [hempty]
    exact hcontext

/-- What is looked for in the task itself is looked for among its fields. -/
theorem stepText?_task (again : Members → Option String) (fields : List String) :
    stepText? again ((submissionFields task labels catalog).filterMap id)
      (.nested "async_task" fields) = field? ((taskFields task).filterMap id) fields := by
  have hfield : lookup? ((submissionFields task labels catalog).filterMap id) "async_task" = _ :=
    lookup?_record (writes_submissionFields task labels catalog)
      (nodup_foldKey (by decide) (by decide)) (i := 1) rfl rfl
  rw [stepText?, nestedObject, hfield, submittedTask_eq]
  rfl

theorem lookup?_submission_eq_none {key : String}
    (hkey : key ∈ soughtKeys ∧ key ∉ submissionNames) :
    lookup? ((submissionFields task labels catalog).filterMap id) key = none :=
  lookup?_record_eq_none (writes_submissionFields task labels catalog)
    (foldKey_notMem (by decide) hkey)

/-- A step that looks up none of the names of the metadata finds nothing. -/
theorem stepText?_submission_eq_none (again : Members → Option String) (step : Step)
    (hkeys : ∀ key ∈ step.keys, key ∈ soughtKeys ∧ key ∉ submissionNames) :
    stepText? again ((submissionFields task labels catalog).filterMap id) step = none :=
  stepText?_eq_none fun key hkey => lookup?_submission_eq_none task labels catalog (hkeys key hkey)

/-- The id that is found is that of the task, not that of its session or of its call. -/
theorem field?_taskFields :
    field? ((taskFields task).filterMap id) ["id"] = Text.nonBlank? task.id := by
  have hfield : lookup? ((taskFields task).filterMap id) "id" = _ :=
    lookup?_record (writes_taskFields task) (nodup_foldKey (by decide) (by decide)) (i := 1) rfl rfl
  rw [field?, List.findSome?_singleton, hfield]
  rfl

/-- There is no label beside the id. -/
theorem field?_taskFields_label :
    field? ((taskFields task).filterMap id) ["label", "command_label", "title", "name"] = none := by
  have hkeys : ∀ key ∈ ["label", "command_label", "title", "name"],
      key ∈ soughtKeys ∧ key ∉ taskNames := by decide
  refine List.findSome?_eq_none_iff.2 fun key hkey => ?_
  rw [lookup?_record_eq_none (writes_taskFields task) (foldKey_notMem (by decide) (hkeys key hkey))]
  rfl

theorem findSome?_taskIdChain (again : Members → Option String) :
    taskIdChain.findSome? (stepText? again ((submissionFields task labels catalog).filterMap id)) =
      Text.nonBlank? task.id := by
  have hnone := stepText?_submission_eq_none task labels catalog again
  have hdirect := hnone (.direct ["async_task_id", "task_id", "id"]) (by decide)
  have htask := hnone (.nested "task" ["id"]) (by decide)
  have hstored := hnone (.reencoded "async_task_metadata") (by decide)
  have hmetadata := hnone (.reencoded "metadata") (by decide)
  simp only [taskIdChain, List.findSome?_cons, List.findSome?_nil, hdirect, stepText?_task,
    field?_taskFields, htask, hstored, hmetadata]
  cases Text.nonBlank? task.id <;> rfl

theorem findSome?_labelChain (again : Members → Option String) :
    labelChain.findSome? (stepText? again ((submissionFields task labels catalog).filterMap id)) =
      labels.shown? catalog := by
  have hnone := stepText?_submission_eq_none task labels catalog again
  have hdirect := hnone (.direct ["progress_label", "async_task_label", "label", "command_label",
    "title", "name"]) (by decide)
  have hstored := hnone (.reencoded "async_task_metadata") (by decide)
  simp only [labelChain, List.findSome?_cons, List.findSome?_nil, hdirect, stepText?_task,
    field?_taskFields_label, stepText?_context, hstored]
  cases labels.shown? catalog <;> rfl

theorem taskId?_submission :
    taskId? (m := Id) decodeObject? ((submissionFields task labels catalog).filterMap id) =
      Text.nonBlank? task.id := by
  rw [taskId?, levels, runChain, runSteps_eq]
  exact findSome?_taskIdChain task labels catalog _

theorem label?_submission :
    label? (m := Id) decodeObject? ((submissionFields task labels catalog).filterMap id) =
      labels.shown? catalog := by
  rw [label?, levels, runChain, runSteps_eq]
  exact findSome?_labelChain task labels catalog _

theorem progressLines_submission :
    progressLines (m := Id) decodeObject? ((submissionFields task labels catalog).filterMap id) =
      ([] : List String) := by
  have hnone (key : String) (hkey : key ∈ soughtKeys ∧ key ∉ submissionNames) :=
    lookup?_submission_eq_none task labels catalog hkey
  have hprogress := hnone "progress" (by decide)
  have hstored := hnone "async_task_metadata" (by decide)
  rw [progressLines, levels, gatherLines, hprogress, hstored]
  rfl

theorem plainTaskId?_submission :
    plainTaskId? (submission task labels catalog).text = Text.nonBlank? task.id := by
  rw [plainTaskId?, taskIdIn?, decodeObject?_submission]
  exact taskId?_submission task labels catalog

theorem plainLabel?_submission :
    plainLabel? (submission task labels catalog).text = labels.shown? catalog := by
  rw [plainLabel?, labelIn?, decodeObject?_submission]
  exact label?_submission task labels catalog

/-- The metadata of a submitted task says which task it is and what its label is, and nothing
else. -/
theorem ofText_submission :
    TaskMetadata.ofText (submission task labels catalog).text =
      { taskId := Text.nonBlank? task.id, label := labels.shown? catalog, progress := [] } := by
  rw [TaskMetadata.ofText_eq, plainTask, decodeObject?_submission]
  dsimp only
  rw [taskId?_submission, label?_submission, progressLines_submission]

end TaskWatch.Metadata
