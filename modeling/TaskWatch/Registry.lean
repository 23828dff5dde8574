import TaskWatch.Endpoint
import TaskWatch.Environment
import TaskWatch.Json.Record
import TaskWatch.Text.Utf8
import TaskWatch.Toml.Reader

/-!
# The registry of daemons

The daemons that a client may talk to, in the order of the file that lists them. Tokens in the file
may refer to variables of the environment. A daemon named `local` is always there after loading: if
the file does not list one, it stands first and has the default socket.
-/

namespace TaskWatch

/-- One daemon of the registry. -/
structure DaemonEntry where
  name : String
  address : String
  authToken : String := ""
  enabled : Bool := true
  provider : Option String := none
  deriving DecidableEq, Repr

/-- The daemons, in stored order. -/
structure Registry where
  daemons : List DaemonEntry := []
  deriving DecidableEq, Repr

/-- Why a registry is not usable. -/
inductive RegistryError where
  | read
  | parse
  | invalidAddress (name : String) (fault : AddressFault)
  deriving DecidableEq, Repr

/-- What stands at the path of a registry file. -/
inductive RegistryFile where
  | missing
  | directory
  | octets (content : List UInt8)

/-- The name of the daemon that is always there. -/
def localDaemon : String := "local"

/-- The name of the registry file. -/
def registryFileName : String := "daemons.toml"

/-- The name of the socket of the local daemon. -/
def socketFileName : String := "fleetd.sock"

/-- The directory for temporary files. -/
def temporaryDirectory (env : Environment) : String :=
  (env.get? "TMPDIR").getD "/tmp"

/-- The socket of the local daemon. -/
def defaultSocketPath (env : Environment) : String :=
  joinPath (temporaryDirectory env) socketFileName

/-- Where the registry file is: named by a variable, or in a directory that a variable names, or
among the settings in the home directory. -/
def defaultRegistryPath (env : Environment) : String :=
  match env.nonBlank? "FLEETD_REGISTRY" with
  | some path => path
  | none => match env.nonBlank? "FLEETD_HOME" with
    | some directory => joinPath directory registryFileName
    | none =>
      let home := (env.nonBlank? "HOME").getD "."
      joinPath (joinPath (joinPath home ".config") "fleetd") registryFileName

namespace RegistryError

/-- The message of a failure; what a reader of files or of TOML has to add is not part of it. -/
def message : RegistryError → String
  | .read => "failed to read daemon registry"
  | .parse => "failed to parse daemon registry"
  | .invalidAddress name fault => "daemon '" ++ name ++ "': " ++ fault.message

end RegistryError

namespace DaemonEntry

/-- A text of a TOML document. -/
def tomlText? : Toml.Value → Option String
  | .string s => some s
  | _ => none

/-- A truth value of a TOML document. -/
def tomlFlag? : Toml.Value → Option Bool
  | .boolean b => some b
  | _ => none

/-- The fields of an entry in declaration order. -/
def fieldNames : List String := ["name", "address", "auth_token", "enabled", "provider"]

/-- An entry from the fields that are present. -/
def ofEntries? (entries : Toml.Entries) : Option DaemonEntry := do
  let field {α : Type} (name : String) (read? : Toml.Value → Option α) : Option (Option α) :=
    match entries.get? name with
    | none => some none
    | some v => (read? v).map some
  return {
    name := ← (← field "name" tomlText?)
    address := ← (← field "address" tomlText?)
    authToken := (← field "auth_token" tomlText?).getD ""
    enabled := (← field "enabled" tomlFlag?).getD true
    provider := ← field "provider" tomlText? }

/-- An entry is a table, or an array that holds its fields in declaration order. -/
def ofToml? : Toml.Value → Option DaemonEntry
  | .table entries => ofEntries? entries
  | .array items => ofEntries? (fieldNames.zip items)
  | _ => none

def toJson (e : DaemonEntry) : Json :=
  Json.record [
    Json.member "name" (.string e.name),
    Json.member "address" (.string e.address),
    Json.textMember "auth_token" e.authToken,
    Json.member "enabled" (.bool e.enabled),
    Json.partMember "provider" (e.provider.map .string)]

end DaemonEntry

namespace Registry

/-- The first daemon with a name. -/
def get? (registry : Registry) (name : String) : Option DaemonEntry :=
  registry.daemons.find? (·.name == name)

/-- The daemons that may be used, in stored order. -/
def enabled (registry : Registry) : List DaemonEntry :=
  registry.daemons.filter (·.enabled)

def size (registry : Registry) : Nat := registry.daemons.length

/-- The first daemon whose address is refused is the failure. -/
def validate (registry : Registry) : Except RegistryError Unit :=
  registry.daemons.forM fun daemon =>
    match validateAddress daemon.address with
    | .ok () => .ok ()
    | .error fault => .error (.invalidAddress daemon.name fault)

/-- The registry with the local daemon in front, unless it lists one. -/
def withLocalDefault (env : Environment) (registry : Registry) : Registry :=
  match registry.get? localDaemon with
  | some _ => registry
  | none => ⟨⟨localDaemon, unixScheme ++ defaultSocketPath env, "", true, none⟩ :: registry.daemons⟩

/-- The daemons that a TOML document lists. -/
def listed? (entries : Toml.Entries) : Option (List DaemonEntry) :=
  match entries.get? "daemons" with
  | none => some []
  | some (.array items) => items.mapM DaemonEntry.ofToml?
  | some _ => none

/-- The registry of a file's text, with the references in its tokens replaced. -/
def ofToml (env : Environment) (text : String) : Except RegistryError Registry :=
  match Toml.ofText? text >>= listed? with
  | none => .error .parse
  | some daemons => .ok ⟨daemons.map fun d => { d with authToken := env.expand d.authToken }⟩

/-- The registry of a file. Without a file it holds the local daemon alone. -/
def load (env : Environment) : RegistryFile → Except RegistryError Registry
  | .missing => .ok (withLocalDefault env {})
  | .directory => .error .read
  | .octets content =>
    match Utf8.decode? content with
    | none => .error .read
    | some text => (withLocalDefault env) <$> ofToml env text

def toJson (registry : Registry) : Json :=
  Json.record [Json.member "daemons" (.array (registry.daemons.map DaemonEntry.toJson))]

end Registry

end TaskWatch
