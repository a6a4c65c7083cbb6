import WorkspaceGateway.Startup

/-!
# The command

Reads the options, the catalog and the listener's files, and says what the gateway starts with or
why it cannot start.
-/

set_option autoImplicit false

namespace WorkspaceGateway.Command

def readFile (path : String) : IO (Except FileError Octets) := do
  try
    return .ok (← IO.FS.readBinFile path).data.toList
  catch e =>
    match e with
    | .noFileOrDirectory .. => return .error .missing
    | .inappropriateType .. => return .error .directory
    | _ => return .error (.failed (toString e))

def filesOf (read : List (String × Except FileError Octets)) : Files := fun path =>
  match read.find? fun r => r.1 = path with
  | some r => r.2
  | none => .error .missing

def gather (o : CommandLine.Options) : IO Files := do
  let catalog ← readFile o.catalog
  let document := match readTextFile (fun _ => catalog) o.catalog with
    | .ok s => Catalog.Document.read? s
    | .error _ => none
  let others ← (Startup.otherPaths o document).mapM fun p => return (p, ← readFile p)
  return filesOf ((o.catalog, catalog) :: others)

def gatherEnvironment : IO (List (String × String)) := do
  let values ← (CommandLine.Setting.all.filterMap CommandLine.Setting.envName?).mapM fun n =>
    return (← IO.getEnv n).map fun v => (n, v)
  return values.filterMap id

def run (words : List String) : IO UInt32 := do
  let values ← gatherEnvironment
  match CommandLine.read words fun n => (values.find? (·.1 = n)).map Prod.snd with
  | .error r =>
    IO.eprintln r.message
    return 2
  | .ok o =>
    match Startup.prepare o (← gather o) with
    | .error e =>
      IO.eprintln e.message
      return 1
    | .ok (c, l) =>
      IO.println (Startup.summary o c l)
      return 0

end WorkspaceGateway.Command

def main (words : List String) : IO UInt32 := WorkspaceGateway.Command.run words
