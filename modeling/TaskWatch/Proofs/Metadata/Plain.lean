import TaskWatch.Call.Reading
import TaskWatch.Proofs.Metadata.Memory

/-!
# Metadata read without a memory

Since the memory of a parser cannot be seen, what is read with a parser is what plain decoding gives
(`Parser.Gives`). The readings of a text and of a call are put that way here, and a chain of steps is
the first of them that finds a text (`runChain_eq`).

* `TaskMetadata.ofText_eq`: what a text says of a task;
* `CallReading.ofCall_eq`: what a call and its result say.
-/

namespace TaskWatch

namespace Metadata

/-- The id of the task that a text is about, read without a memory. -/
def plainTaskId? (text : String) : Option String := taskIdIn? (m := Id) decodeObject? text

/-- The label in a text, read without a memory. -/
def plainLabel? (text : String) : Option String := labelIn? (m := Id) decodeObject? text

/-- The last progress lines in a text, read without a memory. -/
def plainLines (text : String) : List String := progressLinesIn (m := Id) decodeObject? text

/-- What a text says of a task, read without a memory. -/
def plainTask (text : String) : TaskMetadata :=
  match decodeObject? text with
  | none => {}
  | some members => {
      taskId := taskId? (m := Id) decodeObject? members
      label := label? (m := Id) decodeObject? members
      progress := progressLines (m := Id) decodeObject? members }

/-- What a step of a chain finds, read without a memory. -/
def stepText? (again : Members → Option String) (members : Members) : Step → Option String
  | .direct keys => field? members keys
  | .nested key fields => (nestedObject (m := Id) decodeObject? members key).bind (field? · fields)
  | .reencoded key =>
    match lookup? members key with
    | some (.string text) => (decodeObject? text).bind again
    | _ => none

/-- The keys that a step looks up. -/
def Step.keys : Step → List String
  | .direct keys => keys
  | .nested key _ | .reencoded key => [key]

/-- A step whose keys are absent finds nothing. -/
theorem stepText?_eq_none {again : Members → Option String} {members : Members} {step : Step}
    (h : ∀ key ∈ step.keys, lookup? members key = none) :
    stepText? again members step = none := by
  cases step with
  | direct keys =>
    refine List.findSome?_eq_none_iff.2 fun key hkey => ?_
    rw [h key hkey]
    rfl
  | nested key fields =>
    rw [stepText?, nestedObject, h key List.mem_cons_self]
    rfl
  | reencoded key => rw [stepText?, h key List.mem_cons_self]

/-- A chain finds what the first of its steps finds that finds a text. -/
theorem runSteps_eq (again : Members → Option String) (members : Members) (steps : List Step) :
    runSteps (m := Id) decodeObject? again members steps =
      steps.findSome? (stepText? again members) := by
  induction steps with
  | nil => rfl
  | cons step rest ih =>
    cases step with
    | direct keys =>
      rw [runSteps, List.findSome?_cons, stepText?]
      cases field? members keys with
      | none => exact ih
      | some text => rfl
    | nested key fields =>
      rw [runSteps, List.findSome?_cons, stepText?]
      generalize nestedObject (m := Id) decodeObject? members key = inner
      cases inner with
      | none => exact ih
      | some inner =>
        have hinner : (some inner : Id (Option Members)) = (pure (some inner) : Id _) := rfl
        rw [Option.bind_some, hinner, pure_bind, pure_bind]
        dsimp only [Option.bind_some]
        cases field? inner fields with
        | none => exact ih
        | some text => rfl
    | reencoded key =>
      rw [runSteps, List.findSome?_cons, stepText?]
      generalize lookup? members key = value
      cases value with
      | none => exact ih
      | some value =>
        cases value with
        | string text =>
          dsimp only
          generalize decodeObject? text = inner
          cases inner with
          | none => exact ih
          | some inner =>
            have hinner : (some inner : Id (Option Members)) = (pure (some inner) : Id _) := rfl
            rw [Option.bind_some, hinner, pure_bind]
            dsimp only
            cases again inner with
            | none => exact ih
            | some text => rfl
        | _ => exact ih

namespace Parser

variable {α β : Type}

/-- A reading comes to a result with every sound parser, and leaves the parser sound. -/
def Gives (x : StateM Parser α) (a : α) : Prop :=
  ∀ p : Parser, p.Sound → (x p).1 = a ∧ (x p).2.Sound

theorem gives_pure (a : α) : Gives (pure a) a := fun _ hp => ⟨rfl, hp⟩

theorem Gives.bind {x : StateM Parser α} {f : α → StateM Parser β} {a : α} {b : β}
    (hx : Gives x a) (hf : Gives (f a) b) : Gives (x >>= f) b := by
  intro p hp
  obtain ⟨ha, hsound⟩ := hx p hp
  have hbind : (x >>= f) p = f (x p).1 (x p).2 := rfl
  rw [hbind, ha]
  exact hf _ hsound

/-- A reading comes to its result whatever was asked before. -/
theorem Gives.asked {x : StateM Parser α} {a : α} (h : Gives x a) (questions : List Question) :
    (x (asked questions).2).1 = a := by
  refine (h _ ?_).1
  rw [Parser.asked, Question.answers_eq_run]
  exact sound_empty.after _

theorem gives_run (x : Search α) : Gives (x.run decode) (x.run (m := Id) decodeObject?) :=
  fun _ hp => ⟨hp.run x, hp.after x⟩

theorem gives_decode (text : String) : Gives (decode text) (decodeObject? text) :=
  fun _ hp => ⟨hp.decode text, hp.learn text⟩

theorem gives_taskIdIn? (text : String) : Gives (taskIdIn? decode text) (plainTaskId? text) := by
  rw [plainTaskId?, taskIdIn?_run, taskIdIn?_run (m := Id)]
  exact gives_run _

theorem gives_labelIn? (text : String) : Gives (labelIn? decode text) (plainLabel? text) := by
  rw [plainLabel?, labelIn?_run, labelIn?_run (m := Id)]
  exact gives_run _

theorem gives_progressLinesIn (text : String) :
    Gives (progressLinesIn decode text) (plainLines text) := by
  rw [plainLines, progressLinesIn_run, progressLinesIn_run (m := Id)]
  exact gives_run _

theorem gives_runChain (chain : List Step) (members : Members) :
    Gives (runChain decode chain levels members)
      (runChain (m := Id) decodeObject? chain levels members) := by
  rw [runChain_run, runChain_run (m := Id)]
  exact gives_run _

theorem gives_progressLines (members : Members) :
    Gives (progressLines decode members) (progressLines (m := Id) decodeObject? members) := by
  rw [progressLines_run, progressLines_run (m := Id)]
  exact gives_run _

end Parser

theorem gives_readTask (text : String) : Parser.Gives (readTask text) (plainTask text) := by
  rw [plainTask]
  refine (Parser.gives_decode text).bind ?_
  cases decodeObject? text with
  | none => exact Parser.gives_pure ({} : TaskMetadata)
  | some members =>
    exact (Parser.gives_runChain taskIdChain members).bind <|
      (Parser.gives_runChain labelChain members).bind <|
        (Parser.gives_progressLines members).bind (Parser.gives_pure _)

theorem TaskMetadata.ofText_eq (text : String) : TaskMetadata.ofText text = plainTask text :=
  (gives_readTask text {} Parser.sound_empty).1

end Metadata

namespace CallReading

open Metadata Metadata.Parser

theorem gives_firstFound {find : String → StateM Parser (Option String)}
    {plain : String → Option String} (h : ∀ text, Gives (find text) (plain text))
    (texts : List String) : Gives (firstFound find texts) (texts.findSome? plain) := by
  induction texts with
  | nil => exact gives_pure none
  | cons text rest ih =>
    rw [firstFound, List.findSome?_cons]
    refine (h text).bind ?_
    cases plain text with
    | none => exact ih
    | some found => exact gives_pure (some found)

/-- What a call and its result say, read without a memory. -/
theorem ofCall_eq (call : ToolCall) (result : ToolResult) :
    CallReading.ofCall call result = {
      taskId := [result.metadata, call.input, call.reason].findSome? plainTaskId?
      label := [result.metadata, call.input].findSome? plainLabel?
      lines := plainLines result.metadata } := by
  have hread : Gives (read call result) _ :=
    (gives_firstFound gives_taskIdIn? [result.metadata, call.input, call.reason]).bind <|
      (gives_firstFound gives_labelIn? [result.metadata, call.input]).bind <|
        (gives_progressLinesIn result.metadata).bind (gives_pure _)
  exact (hread {} sound_empty).1

end CallReading

end TaskWatch
