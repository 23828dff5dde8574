import TaskWatch.Client.Operation
import TaskWatch.Client.Watch
import TaskWatch.Locator.Basic

/-!
# The command line

An operator finds the daemon of an agent, lists the tasks of a daemon, or follows one task until its
watch ends. A command either prints lines or fails; what fails it is told with what was being done.

* `Event.report`: the lines that an event prints while a task is followed;
* `Command.run`: a command on a registry and a network.
-/

namespace TaskWatch

/-- What a command line asks for. -/
inductive Command where
  | locate (agent : String)
  /-- Lists the tasks of a daemon, the local one if none is named. -/
  | tasks (daemon : Option String)
  /-- Follows a task of a daemon, the local one if none is named. -/
  | watch (taskId : String) (daemon : Option String)
  deriving DecidableEq, Repr

/-- Why a command fails. -/
inductive CommandError where
  /-- The arguments are no command. -/
  | usage
  | loading (cause : RegistryError)
  | locating (agent : String) (cause : LocateError)
  | daemon (name : String) (cause : ClientError)
  | listing (cause : ClientError)
  | watching (taskId : String) (cause : ClientError)
  deriving DecidableEq, Repr

namespace CommandError

/-- What was being done. -/
def context : CommandError → String
  | .usage => "usage: fleetd-watch <locate <agent> | tasks [daemon] | watch <task-id> [daemon]>"
  | .loading _ => "loading daemon registry"
  | .locating agent _ => "locating agent " ++ agent
  | .daemon name _ => "daemon " ++ name
  | .listing _ => "listing tasks"
  | .watching taskId _ => "watching task " ++ taskId

/-- What went wrong with it. -/
def cause? : CommandError → Option String
  | .usage => none
  | .loading cause => some cause.message
  | .locating _ cause => some cause.message
  | .daemon _ cause | .listing cause | .watching _ cause => some cause.message

/-- What a failed command prints. -/
def report (e : CommandError) : String :=
  let head := "Error: " ++ e.context
  match e.cause? with
  | none => head
  | some cause => head ++ "\n\nCaused by:\n    " ++ cause

end CommandError

namespace Event

/-- The first text that is not empty. -/
def firstNonEmpty? (texts : List String) : Option String := texts.find? (· ≠ "")

/-- The lines that the end of a task prints, by the kind of the event. -/
def reportEnd (e : Event) : List String :=
  match e.kind with
  | .completed =>
    let result := Text.trim ((e.task.map (·.result)).getD "")
    if result = "" then ["completed"] else [result, "completed"]
  | .failed =>
    let taskError := Text.trim ((e.task.map (·.error)).getD "")
    ["failed: " ++ (firstNonEmpty? [e.error, taskError]).getD "failed"]
  | .deleted => [if e.error = "" then "task deleted" else e.error]
  | .snapshot | .progress | .other _ => []

/-- The lines that an event prints. -/
def report (e : Event) : List String :=
  (e.progress.bind Progress.displayLine).toList ++ e.reportEnd

end Event

namespace Task

/-- The line that a task prints in a listing. -/
def listingLine (t : Task) : String := t.id ++ "\t" ++ t.status ++ "\t" ++ t.toolName

end Task

namespace Command

/-- The command of some arguments. Arguments after it are of no account. -/
def ofArgs? : List String → Option Command
  | "locate" :: agent :: _ => some (.locate agent)
  | "tasks" :: rest => some (.tasks rest.head?)
  | "watch" :: taskId :: rest => some (.watch taskId rest.head?)
  | _ => none

/-- The client for a daemon, the local one if none is named. -/
def clientOf (registry : Registry) (daemon : Option String) : Except CommandError Client :=
  let name := daemon.getD localDaemon
  (Client.ofRegistry registry name).mapError (.daemon name)

/-- All events of a watch. -/
def eventsOf (feed : Feed) (tokens : Tokens) : List Event := (feed.takeAll tokens).1

/-- Follows a task until its watch ends. -/
def follow (client : Client) (taskId : String) (net : Network) :
    Except CommandError (List String) × Network :=
  let tokens : Tokens := {}
  let (opened, net) :=
    client.openWatch taskId Channel.standardCapacity tokens.next tokens.issue net
  (match opened with
    | .error e => .error (.watching taskId e)
    | .ok feed => .ok ((eventsOf feed tokens.issue).flatMap Event.report), net)

/-- Runs a command: the lines that it prints, or why it fails. -/
def run (registry : Registry) (command : Command) (net : Network) :
    Except CommandError (List String) × Network :=
  match command with
  | .locate agent =>
    let (daemon, net) := ({ registry := registry : Locator }).locateOn agent net
    ((fun name => [name]) <$> daemon.mapError (.locating agent), net)
  | .tasks daemon =>
    match clientOf registry daemon with
    | .error e => (.error e, net)
    | .ok client =>
      let (listed, net) := client.list net
      ((fun found => (Task.sortRecentFirst found).map Task.listingLine) <$>
        listed.mapError .listing, net)
  | .watch taskId daemon =>
    match clientOf registry daemon with
    | .error e => (.error e, net)
    | .ok client => follow client taskId net

/-- Runs the command of some arguments. The registry has to be there first. -/
def runArgs (registry : Except RegistryError Registry) (args : List String) (net : Network) :
    Except CommandError (List String) × Network :=
  match registry, ofArgs? args with
  | .error e, _ => (.error (.loading e), net)
  | .ok _, none => (.error .usage, net)
  | .ok registry, some command => command.run registry net

end Command

end TaskWatch
