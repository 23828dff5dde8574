import TaskWatch.Call.State

/-!
# What a call and its result say

A call is read for the task it stands for, a label and first progress lines. The metadata of the
result is asked first, then the input of the call, and for the task the reason of the call as well.
All texts are read with one parser, so a text that stands in two places is decoded once.
-/

namespace TaskWatch

/-- What was found in a call and its result. -/
structure CallReading where
  taskId : Option String := none
  label : Option String := none
  lines : List String := []
  deriving DecidableEq, Repr

namespace CallReading

/-- The first text in which something is found. -/
def firstFound (find : String → StateM Metadata.Parser (Option String)) :
    List String → StateM Metadata.Parser (Option String)
  | [] => pure none
  | text :: rest => do
    match ← find text with
    | some found => return some found
    | none => firstFound find rest

/-- Reads a call and its result with a parser. -/
def read (call : ToolCall) (result : ToolResult) : StateM Metadata.Parser CallReading := do
  let taskId ← firstFound (Metadata.taskIdIn? Metadata.Parser.decode)
    [result.metadata, call.input, call.reason]
  let label ← firstFound (Metadata.labelIn? Metadata.Parser.decode)
    [result.metadata, call.input]
  let lines ← Metadata.progressLinesIn Metadata.Parser.decode result.metadata
  return ⟨taskId, label, lines⟩

/-- What a call and its result say. -/
def ofCall (call : ToolCall) (result : ToolResult) : CallReading :=
  (read call result {}).1

end CallReading

namespace CallState

/-- Offers the label that was found, or else the name of the tool as a fallback. -/
def absorbLabel (s : CallState) (catalog : Catalog) (reading : CallReading) (call : ToolCall)
    (result : ToolResult) : CallState :=
  match reading.label with
  | some label => (s.updateLabel label .metadata).2
  | none =>
    match Text.firstNonBlank? [result.name, call.name] with
    | some name => (s.updateLabel (catalog.labelFor name) .fallback).2
    | none => s

/-- Takes in what a call and its result say: ids, label and first lines. -/
def absorb (s : CallState) (catalog : Catalog) (call : ToolCall) (result : ToolResult) :
    CallState :=
  let reading := CallReading.ofCall call result
  let bound := match reading.taskId with
    | some id => (s.setTaskId id).2
    | none => s
  let placed := bound.setSessionId call.sessionId
  (placed.absorbLabel catalog reading call result).ensureInitial reading.lines

end CallState

end TaskWatch
