import TaskWatch.Metadata.Parser

/-!
# Questions to a parser

A parser is asked for the object of a text, or for the id, the label or the lines that are found in
it. Like the extractors, a question can be answered with any way to decode texts.
-/

namespace TaskWatch.Metadata

/-- What can be asked about a text. -/
inductive Question where
  /-- Which object the text spells. -/
  | object (text : String)
  | taskId (text : String)
  | label (text : String)
  | lines (text : String)
  deriving DecidableEq, Repr

/-- What is answered. -/
inductive Answer where
  | object (members : Option Members)
  | text (found : Option String)
  | lines (found : List String)

namespace Question

variable {m : Type → Type} [Monad m] (decode : String → m (Option Members))

/-- The answer to a question. -/
def answer : Question → m Answer
  | .object text => do return .object (← decode text)
  | .taskId text => do return .text (← taskIdIn? decode text)
  | .label text => do return .text (← labelIn? decode text)
  | .lines text => do return .lines (← progressLinesIn decode text)

/-- The answers to some questions, asked one after the other. -/
def answers : List Question → m (List Answer)
  | [] => pure []
  | question :: rest => do
    let answer ← question.answer decode
    let later ← answers rest
    return answer :: later

end Question

end TaskWatch.Metadata
