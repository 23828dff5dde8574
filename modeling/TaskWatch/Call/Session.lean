import TaskWatch.Call.State

/-!
# A call in use

A `CallSession` is a call together with the tokens that its watches were handed. Everything that is
done with a call is an action, and every action has an answer.
-/

namespace TaskWatch

/-- A call, and the tokens handed out so far. -/
structure CallSession where
  call : CallState
  tokens : Tokens := {}
  deriving DecidableEq, Repr

namespace CallSession

/-- What is done with a call. -/
inductive Action where
  | setTaskId (id : String)
  | setSessionId (id : String)
  | updateLabel (candidate : String) (tier : LabelTier)
  | ensureInitial (lines : List String)
  | replaceLines (lines : List String)
  | appendLine (line : String)
  | beginWatch
  | finishWatch
  | markDone
  | cancelWatch
  | applyEvent (catalog : Catalog) (event : Event)
  | updateFromTask (catalog : Catalog) (task : Task)

/-- What an action gives back. -/
inductive Answer where
  | done
  | flag (b : Bool)
  /-- The task and the token of the watch, if one was begun. -/
  | watch (begun : Option (String × Token))

/-- A session with a new call, when some tokens were handed out before. -/
def new (callId : String) (capacity : Nat) (tokens : Tokens) : CallSession :=
  ⟨.new callId capacity, tokens⟩

/-- An action and its answer. -/
def act (s : CallSession) : Action → Answer × CallSession
  | .setTaskId id =>
    let (bound, call) := s.call.setTaskId id
    (.flag bound, { s with call := call })
  | .setSessionId id => (.done, { s with call := s.call.setSessionId id })
  | .updateLabel candidate tier =>
    let (taken, call) := s.call.updateLabel candidate tier
    (.flag taken, { s with call := call })
  | .ensureInitial lines => (.done, { s with call := s.call.ensureInitial lines })
  | .replaceLines lines => (.done, { s with call := s.call.replaceLines lines })
  | .appendLine line =>
    let (added, call) := s.call.appendLine line
    (.flag added, { s with call := call })
  | .beginWatch =>
    let (begun, call, tokens) := s.call.beginWatch s.tokens
    (.watch begun, ⟨call, tokens⟩)
  | .finishWatch =>
    let (claimed, call) := s.call.finishWatch
    (.flag claimed, { s with call := call })
  | .markDone =>
    let (claimed, call, tokens) := s.call.markDone s.tokens
    (.flag claimed, ⟨call, tokens⟩)
  | .cancelWatch =>
    let (call, tokens) := s.call.cancelWatch s.tokens
    (.done, ⟨call, tokens⟩)
  | .applyEvent catalog event =>
    let (last, call) := s.call.applyEvent catalog event
    (.flag last, { s with call := call })
  | .updateFromTask catalog task => (.done, { s with call := s.call.updateFromTask catalog task })

/-- The session after some actions. -/
def run (s : CallSession) (actions : List Action) : CallSession :=
  actions.foldl (fun s action => (s.act action).2) s

/-- Some actions, each with its answer. -/
def history (s : CallSession) : List Action → List (Action × Answer)
  | [] => []
  | action :: rest => (action, (s.act action).1) :: history (s.act action).2 rest

end CallSession

end TaskWatch
