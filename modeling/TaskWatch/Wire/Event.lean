import TaskWatch.Wire.Task

/-!
# Events on the wire

One line of a watch, after the line that acknowledges it: the kind of the event, and whatever the
kind carries.
-/

namespace TaskWatch.Wire

/-- An event of a task. -/
structure Event where
  kind : String := ""
  task : Option Task := none
  progress : Option Progress := none
  error : String := ""
  deriving DecidableEq, Repr

namespace Event

/-- The fields in declaration order. -/
def fieldNames : List String := ["type", "task", "progress", "error"]

def ofDocument? (d : Document) : Option Event := do
  let fields ← Fields.ofDocument? fieldNames d
  return {
    kind := ← fields.text "type"
    task := ← fields.optional "task" Task.ofDocument?
    progress := ← fields.optional "progress" Progress.ofDocument?
    error := ← fields.text "error" }

def toJson (e : Event) : Json :=
  Json.record [
    Json.member "type" (.string e.kind),
    Json.partMember "task" (e.task.map Task.toJson),
    Json.partMember "progress" (e.progress.map Progress.toJson),
    Json.textMember "error" e.error]

/-- The event of a JSON text. -/
def ofText? (s : String) : Option Event := do
  ofDocument? (← Document.ofText? s)

/-- The JSON text of an event. -/
def text (e : Event) : String := e.toJson.text

end Event

end TaskWatch.Wire
