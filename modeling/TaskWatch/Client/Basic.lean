import TaskWatch.Duration
import TaskWatch.Registry

/-!
# Clients

A client talks to one daemon of a registry. Every call opens a connection of its own. The options
bound how long a call may wait and how long a line of the daemon may be, by the kind of the call.
-/

namespace TaskWatch

/-- The limits of a client. -/
structure ClientOptions where
  requestTimeout : Duration := .seconds 10
  /-- Bounds connecting, and once more the wait for the answer to the token. -/
  connectTimeout : Duration := .seconds 5
  /-- The longest line in answers about processes, metrics and lifecycle changes. -/
  maxLineBytes : Nat := 1024 * 1024
  /-- The longest line in answers about tasks, which carry what tools have put out. -/
  maxTaskLineBytes : Nat := 64 * 1024 * 1024
  /-- The longest line of a watch. -/
  maxStreamLineBytes : Nat := 64 * 1024 * 1024
  deriving DecidableEq, Repr

/-- The limits at a moment when a deadline bounds all that is done, if there is one: a request has the
time that is left until then, and so has connecting, but never more than its own. -/
def ClientOptions.before (options : ClientOptions) (deadline : Option Duration) (now : Duration) :
    ClientOptions :=
  { options with
    requestTimeout := .untilDeadline deadline now options.requestTimeout
    connectTimeout :=
      (Duration.untilDeadline deadline now options.connectTimeout).min options.connectTimeout }

/-- A client of one daemon. -/
structure Client where
  name : String
  endpoint : Endpoint
  authToken : String := ""
  options : ClientOptions := {}
  deriving DecidableEq, Repr

namespace Client

/-- The client for an entry of a registry. -/
def ofEntry (entry : DaemonEntry) : Except ClientError Client := do
  let endpoint ← Endpoint.ofAddress entry.address
  return { name := entry.name, endpoint := endpoint, authToken := entry.authToken }

/-- The client for the first daemon with a name, which has to be enabled. -/
def ofRegistry (registry : Registry) (name : String) : Except ClientError Client :=
  match registry.get? name with
  | none => .error (.unknownDaemon name)
  | some entry => if entry.enabled then ofEntry entry else .error (.daemonDisabled name)

/-- The same client with other limits. -/
def withOptions (client : Client) (options : ClientOptions) : Client :=
  { client with options := options }

end Client

end TaskWatch
