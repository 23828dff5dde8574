import TaskWatch.Metadata.Lines

/-!
# What metadata says of a task

The id and the label of a task are found by a chain of steps, each a place to look: keys of the
object itself, keys of an object inside it, or a whole JSON document that is stored as a text, in
which the chain starts again. Progress lines are gathered from an object and from the documents
stored in it. Documents inside documents are followed eight levels deep.

All of it is written for any way `decode` to read a JSON object from a text, so that it can be run
with a memory of texts already read (`Metadata.Parser`) or without one (`Metadata.decodeObject?`).
-/

namespace TaskWatch.Metadata

/-- How many progress lines metadata gives. -/
def lineCapacity : Nat := 10

/-- How many levels of objects are looked at: one, and eight documents inside it. -/
def levels : Nat := 9

/-- A place to look for a text. -/
inductive Step where
  /-- These keys of the object. -/
  | direct (keys : List String)
  /-- These keys of an object under a key, which may be stored as a text. -/
  | nested (key : String) (fields : List String)
  /-- The whole chain in the document stored under a key. -/
  | reencoded (key : String)
  deriving DecidableEq, Repr

/-- Where the id of a task is looked for. -/
def taskIdChain : List Step :=
  [.direct ["async_task_id", "task_id", "id"],
    .nested "async_task" ["id"],
    .nested "task" ["id"],
    .reencoded "async_task_metadata",
    .reencoded "metadata"]

/-- Where the label of a task is looked for. -/
def labelChain : List Step :=
  [.direct ["progress_label", "async_task_label", "label", "command_label", "title", "name"],
    .nested "async_task" ["label", "command_label", "title", "name"],
    .nested "async_context" ["label", "title", "name"],
    .reencoded "async_task_metadata"]

/-- The members of the object that a text spells, up to the blanks around it. -/
def decodeObject? (text : String) : Option Members :=
  (Json.ofText? (Text.trim text)).bind Json.members?

section

variable {m : Type → Type} [Monad m] (decode : String → m (Option Members))

/-- The object under a key, or in the text under it. An empty object counts as none. -/
def nestedObject (members : Members) (key : String) : m (Option Members) :=
  match lookup? members key with
  | some (.object inner) => pure (if inner.isEmpty then none else some inner)
  | some (.string text) => decode text
  | _ => pure none

/-- The first text that a step of a chain finds. `again` runs the chain in another object. -/
def runSteps (again : Members → m (Option String)) (members : Members) :
    List Step → m (Option String)
  | [] => pure none
  | step :: rest => do
    let found ← match step with
      | .direct keys => pure (field? members keys)
      | .nested key fields => do
        let inner ← nestedObject decode members key
        pure (inner.bind (field? · fields))
      | .reencoded key =>
        match lookup? members key with
        | some (.string text) => do
          match ← decode text with
          | some inner => again inner
          | none => pure none
        | _ => pure none
    match found with
    | some text => pure (some text)
    | none => runSteps again members rest

/-- The text that a chain finds in an object, with at most so many levels to look at. -/
def runChain (chain : List Step) : Nat → Members → m (Option String)
  | 0, _ => pure none
  | level + 1, members => runSteps decode (runChain chain level) members chain

/-- The lines of the value under `progress`. `again` gathers lines from another object. -/
def valueLines (again : Members → m (List String)) : Json → m (List String)
  | .array items => pure (items.filterMap fun item => item.members?.bind entryLine?)
  | .object entry => pure (entryLine? entry).toList
  | .string text => do
    match ← decode text with
    | some inner => again inner
    | none => pure (Text.nonBlank? text).toList
  | _ => pure []

/-- The lines of an object and of the document stored in it. -/
def gatherLines : Nat → Members → m (List String)
  | 0, _ => pure []
  | level + 1, members => do
    let own ← match lookup? members "progress" with
      | some value => valueLines decode (gatherLines level) value
      | none => pure []
    match lookup? members "async_task_metadata" with
    | some (.string text) =>
      match ← decode text with
      | some inner => do
        let more ← gatherLines level inner
        pure (own ++ more)
      | none => pure own
    | _ => pure own

/-- The id of the task that an object is about. -/
def taskId? (members : Members) : m (Option String) :=
  runChain decode taskIdChain levels members

/-- The label in an object. -/
def label? (members : Members) : m (Option String) :=
  runChain decode labelChain levels members

/-- The last progress lines in an object. -/
def progressLines (members : Members) : m (List String) := do
  return normalizeLines (← gatherLines decode levels members) lineCapacity

/-- The id of the task that a text is about. -/
def taskIdIn? (text : String) : m (Option String) := do
  match ← decode text with
  | some members => taskId? decode members
  | none => pure none

/-- The label in a text. -/
def labelIn? (text : String) : m (Option String) := do
  match ← decode text with
  | some members => label? decode members
  | none => pure none

/-- The last progress lines in a text. -/
def progressLinesIn (text : String) : m (List String) := do
  match ← decode text with
  | some members => progressLines decode members
  | none => pure []

end

end TaskWatch.Metadata
