import TaskWatch.Client.Operation
import TaskWatch.Locator.Window

/-!
# Finding an agent

An agent runs on one of the daemons of a registry. To find it, every enabled daemon is asked for its
processes, a few at a time. Daemons that cannot be asked or fail to answer do not count. The agent
is found if exactly one daemon has it; if several have it, all of them are named, in the order of
the registry.

How a daemon is asked is a parameter: `Locator.locate` works with any way to get an answer for the
daemon at a place of the registry, and `Locator.locateOn` asks over a network.
-/

namespace TaskWatch

/-- Why no client for an agent can be given. -/
inductive LocateError where
  | notFound (agent : String)
  | ambiguous (agent : String) (daemons : List String)
  | client (error : ClientError)
  deriving DecidableEq, Repr

/-- What finds agents. -/
structure Locator where
  registry : Registry
  options : ClientOptions := {}
  /-- How many daemons are asked at a time. -/
  concurrency : Nat := 4
  deriving DecidableEq, Repr

/-- A way to ask for the processes of the daemon at a place of the registry. -/
abbrev Inquiry (σ : Type) := Nat → Client → σ → Except ClientError (List Wire.ProcessInfo) × σ

namespace LocateError

def message : LocateError → String
  | .notFound agent => "agent '" ++ agent ++ "' not found on any daemon"
  | .ambiguous agent daemons =>
    "agent '" ++ agent ++ "' exists on multiple daemons: " ++ ", ".intercalate daemons ++
      "; specify one explicitly"
  | .client error => error.message

end LocateError

namespace Locator

variable {σ : Type}

/-- Whether an agent is among the processes of an answer. -/
def reports (agent : String) : Except ClientError (List Wire.ProcessInfo) → Bool
  | .ok processes => processes.any (·.name == agent)
  | .error _ => false

/-- The name of a daemon if it has the agent. -/
def probe (locator : Locator) (ask : Inquiry σ) (agent : String) (job : DaemonEntry × Nat)
    (s : σ) : Option String × σ :=
  match Client.ofEntry job.1 with
  | .error _ => (none, s)
  | .ok client =>
    let (reply, s) := ask job.2 (client.withOptions locator.options) s
    (if reports agent reply then some job.1.name else none, s)

/-- The daemons to ask, with their places. -/
def candidates (locator : Locator) : List (DaemonEntry × Nat) :=
  locator.registry.daemons.zipIdx.filter (·.1.enabled)

/-- What it means that some daemons have an agent. -/
def verdict (agent : String) : List String → Except LocateError String
  | [] => .error (.notFound agent)
  | [daemon] => .ok daemon
  | daemons => .error (.ambiguous agent daemons)

/-- The daemon that has an agent. The schedule says in which order the daemons answer. -/
def locate (locator : Locator) (ask : Inquiry σ) (schedule : Nat → Nat) (agent : String) (s : σ) :
    Except LocateError String × σ :=
  let agent := Text.trim agent
  let (found, s) := Window.answersOf (locator.probe ask agent) schedule locator.concurrency
    locator.candidates s
  (verdict agent (found.filterMap id), s)

/-- A client for an agent: of the daemon that is named explicitly, or else of the one that has the
agent. -/
def clientFor (locator : Locator) (ask : Inquiry σ) (schedule : Nat → Nat) (agent : String)
    (explicit : Option String) (s : σ) : Except LocateError Client × σ :=
  let (name, s) : Except LocateError String × σ := match explicit.bind Text.nonBlank? with
    | some name => (.ok name, s)
    | none => locator.locate ask schedule agent s
  match name with
  | .error e => (.error e, s)
  | .ok name =>
    match Client.ofRegistry locator.registry name with
    | .error e => (.error (.client e), s)
    | .ok client => (.ok (client.withOptions locator.options), s)

/-! ## Over a network -/

/-- Asks over a network. -/
def overNetwork : Inquiry Network := fun _ client net => client.listProcesses net

/-- The daemon that has an agent; the daemons answer in the order in which they are asked. -/
def locateOn (locator : Locator) (agent : String) (net : Network) :
    Except LocateError String × Network :=
  locator.locate overNetwork (fun _ => 0) agent net

/-- A client for an agent, with daemons that answer in the order in which they are asked. -/
def clientForOn (locator : Locator) (agent : String) (explicit : Option String) (net : Network) :
    Except LocateError Client × Network :=
  locator.clientFor overNetwork (fun _ => 0) agent explicit net

end Locator

end TaskWatch
