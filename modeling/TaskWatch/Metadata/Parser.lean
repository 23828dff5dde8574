import TaskWatch.Metadata.Extraction

/-!
# A parser that remembers

The same text often stands in several places, so a parser remembers every text that it has decoded,
under its trimmed form, whether it was an object or not. Blank texts are not worth remembering.
-/

namespace TaskWatch.Metadata

/-- The texts decoded so far, and the objects that they spell. -/
structure Parser where
  known : List (String × Option Members) := []

namespace Parser

/-- What is remembered of a trimmed text. -/
def remembered? (parser : Parser) (text : String) : Option (Option Members) :=
  (parser.known.find? (·.1 == text)).map (·.2)

/-- The object that a text spells, from memory if it was decoded before. -/
def decode (text : String) : StateM Parser (Option Members) := fun parser =>
  let text := Text.trim text
  if text = "" then (none, parser)
  else match parser.remembered? text with
    | some members => (members, parser)
    | none =>
      let members := decodeObject? text
      (members, ⟨parser.known ++ [(text, members)]⟩)

/-- How many texts are remembered. -/
def size (parser : Parser) : Nat := parser.known.length

end Parser

/-- All that metadata says of a task. -/
structure TaskMetadata where
  taskId : Option String := none
  label : Option String := none
  progress : List String := []
  deriving DecidableEq, Repr

/-- What a text says of a task, read with a parser. -/
def readTask (text : String) : StateM Parser TaskMetadata := do
  match ← Parser.decode text with
  | none => return {}
  | some members =>
    return {
      taskId := ← taskId? Parser.decode members
      label := ← label? Parser.decode members
      progress := ← progressLines Parser.decode members }

/-- What a text says of a task. -/
def TaskMetadata.ofText (text : String) : TaskMetadata :=
  (readTask text {}).1

end TaskWatch.Metadata
