import ChannelMux.Command
import ChannelMux.World.Create

/-! The command line program. -/

namespace ChannelMux.Program

open Command

/-- The environment variables the settings read. -/
def settingVariables : List String :=
  ["MUXCHAN_CONFIG", "MUXCHAN_LISTEN", "MUXCHAN_METRICS", "MUXCHAN_LOG_LEVEL", "MUXCHAN_DUMP",
   "MUXCHAN_MAX_CONNECTIONS", "MUXCHAN_PROXY", "MUXCHAN_TIMEOUT"]

/-- A file of the working directory with its contents, under the name settings look it up by;
none when it cannot be read. -/
def readable (path : String) : IO (Option (String × String)) := do
  try
    let text ← IO.FS.readFile path
    let name := if path.startsWith "./" then String.ofList (path.toList.drop 2) else path
    return some (name, text)
  catch _ => return none

/-- Gathers the sources of the settings for a settings file asked for. -/
def gather (path : String) : IO Settings.Sources := do
  let mut env := []
  for name in settingVariables do
    if let some v ← IO.getEnv name then env := env ++ [(name, v)]
  let base : Settings.Sources := { path, env }
  let mut files := []
  if let some f ← readable Settings.defaultFile then files := files ++ [f]
  if let some chosen := base.discover? then
    if chosen != Settings.defaultFile then
      if let some f ← readable chosen then files := files ++ [f]
  return { base with files }

/-- Prints a failure of the program and answers the status it ends with. -/
def fail (message : String) : IO UInt32 := do
  IO.eprintln ("muxchan: " ++ message)
  return 1

/-- Loads the settings for a command, printing why when they do not load. -/
def loadSettings (path : String) : IO (Option Settings.Config) := do
  match (← gather path).load with
  | .ok c => return some c
  | .error f =>
    let _ ← fail f.message
    return none

/-- Runs the program with its arguments and answers its exit status. -/
def run (args : List String) : IO UInt32 := do
  match Request.ofArgs args with
  | .usage status =>
    IO.eprint usage
    return status
  | .schemes =>
    for s in knownSchemes do IO.println s
    return 0
  | .badFlags command flags e =>
    if e != .help then IO.eprintln e.message
    IO.eprint (flagList command flags)
    if e == .help then return 2 else fail e.message
  | .refused message => fail message
  | .serve config _ =>
    match ← loadSettings config with
    | none => return 1
    | some _ => fail "serve: no network transport in this build"
  | .fetch config f =>
    match ← loadSettings config with
    | none => return 1
    | some _ =>
      match f.readMethod with
      | .error e => fail e
      | .ok _ => fail "fetch: no network transport in this build"

end ChannelMux.Program

/-- The program: runs the command line and ends with its status. -/
def main (args : List String) : IO UInt32 := ChannelMux.Program.run args
