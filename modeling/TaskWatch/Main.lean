import TaskWatch.CommandLine

/-!
# The program

Reads the registry and runs a command. Daemons answer from recordings: the file at the path of a
local socket holds what the daemon writes after it has read a line. Nothing is reached over the
network.
-/

namespace TaskWatch.Program

/-- The octets of a file; none if it is not there or cannot be read. -/
def octetsOf? (path : String) : IO (Option (List UInt8)) := do
  try
    return some (← IO.FS.readBinFile path).toList
  catch _ =>
    return none

/-- What stands at the path of the registry. -/
def registryFile (path : String) : IO RegistryFile := do
  try
    return .octets (← IO.FS.readBinFile path).toList
  catch
    | .noFileOrDirectory .. => return .missing
    | _ => return .directory

/-- The variables that are set, of some names. -/
def environmentOf (names : List String) : IO Environment := do
  let mut found := []
  for name in names do
    if let some value ← IO.getEnv name then
      found := (name, value) :: found
  return ⟨found⟩

/-- The daemons of a registry that have a recording. -/
def recordings (registry : Registry) : IO Network := do
  let mut hosts := []
  for entry in registry.daemons do
    if let .ok (.unix path) := Endpoint.ofAddress entry.address then
      if let some octets ← octetsOf? path then
        hosts := hosts ++ [{ endpoint := .unix path, scripts := [[.read, .write octets]] }]
  return ⟨hosts⟩

/-- The variables that say where files are. -/
def placeVariables : List String := ["FLEETD_REGISTRY", "FLEETD_HOME", "HOME", "TMPDIR"]

/-- The registry of the environment. -/
def loadRegistry : IO (Except RegistryError Registry) := do
  let places ← environmentOf placeVariables
  let file ← registryFile (defaultRegistryPath places)
  let referenced := match file with
    | .octets octets => Environment.referencedNames (Utf8.decodeLossy octets).toList
    | .missing | .directory => []
  let env ← environmentOf (placeVariables ++ referenced)
  return Registry.load env file

/-- Prints what the command prints. Returns 1 if it fails. -/
def run (args : List String) : IO UInt32 := do
  let registry ← loadRegistry
  let net ← match registry with
    | .ok registry => recordings registry
    | .error _ => pure {}
  match (Command.runArgs registry args net).1 with
  | .ok lines =>
    for line in lines do
      IO.println line
    return 0
  | .error e =>
    IO.eprintln e.report
    return 1

end TaskWatch.Program

def main (args : List String) : IO UInt32 := TaskWatch.Program.run args
