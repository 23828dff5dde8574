import TaskWatch.Json.Reader
import TaskWatch.Task.Basic
import TaskWatch.Text.Case

/-!
# Looking into metadata

Metadata is JSON of loose shape. A key is found exactly or, failing that, up to case and blanks; a
field is the first of some keys that holds a text, a number or a truth value that is not blank.
-/

namespace TaskWatch.Metadata

/-- The form in which keys are compared when no key is exactly the one that is looked for. -/
def foldKey (key : String) : String := Text.lower (Text.trim key)

/-- The value of a key: exactly this key, or else the first that is the same up to case and the
blanks around it. -/
def lookup? (members : Members) (key : String) : Option Json :=
  match Json.get? members key with
  | some value => some value
  | none => (members.find? (foldKey ·.1 == foldKey key)).map (·.2)

/-- The trimmed text of a text, number or truth value, unless it is blank. -/
def textOf? : Json → Option String
  | .string s => Text.nonBlank? s
  | .number n => some n.text
  | .bool true => some "true"
  | .bool false => some "false"
  | _ => none

/-- The first text among the values of some keys. -/
def field? (members : Members) (keys : List String) : Option String :=
  keys.findSome? fun key => (lookup? members key).bind textOf?

/-- The line of a progress entry. -/
def entryLine? (entry : Members) : Option String :=
  statusLine (field? entry ["status"]) (field? entry ["text", "message"])

/-- The trimmed lines that are not blank, at most the last `capacity` of them. -/
def normalizeLines (lines : List String) (capacity : Nat) : List String :=
  let kept := lines.filterMap Text.nonBlank?
  kept.drop (kept.length - capacity)

end TaskWatch.Metadata
