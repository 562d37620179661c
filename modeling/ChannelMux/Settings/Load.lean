import ChannelMux.Settings.Decode
import ChannelMux.Settings.Validate
import ChannelMux.Text.Decimal

/-! Loading settings in layers: the built-in defaults, then a YAML file, then `MUXCHAN_*`
environment variables, then the checks. -/

namespace ChannelMux.Settings

/-- Where settings come from: the path asked for, the environment, and the files of the working
directory with their contents. -/
structure Sources where
  path : String := ""
  env : List (String × String) := []
  files : List (String × String) := []
  deriving Repr, Inhabited

/-- A variable of the environment; unset reads as empty. -/
def Sources.getenv (s : Sources) (name : String) : String := (s.env.lookup name).getD ""

/-- The name of the settings file looked for in the working directory. -/
def defaultFile : String := "muxchan.yaml"

/-- The settings file to read, or none. -/
def Sources.discover? (s : Sources) : Option String :=
  if !s.path.isEmpty then some s.path
  else if !(s.getenv "MUXCHAN_CONFIG").isEmpty then some (s.getenv "MUXCHAN_CONFIG")
  else if s.files.any (·.1 == defaultFile) then some defaultFile
  else none

/-- Where a walk along a path stands: in a directory, `above` levels over the working directory
(none for one reached from the root), or on a file of the working directory. -/
inductive Place where
  | directory (above : Option Nat)
  | file (name : String)
  deriving DecidableEq, Repr

/-- Why a walk along a path stops. -/
inductive WalkError where
  /-- A name that is not there. -/
  | missing
  /-- A step after a file, which is no directory. -/
  | notDirectory
  deriving DecidableEq, Repr

/-- Walks the steps of a path. -/
def Sources.walk (s : Sources) : Place → List String → Except WalkError Place
  | at_, [] => .ok at_
  | .file _, _ :: _ => .error .notDirectory
  | .directory above, step :: rest =>
    if step == "" || step == "." then s.walk (.directory above) rest
    else if step == ".." then s.walk (.directory (above.map (· + 1))) rest
    else if above == some 0 && s.files.any (·.1 == step) then s.walk (.file step) rest
    else .error .missing

/-- Reads a file named by a path from the working directory. -/
def Sources.readFile (s : Sources) (p : String) : Except String String :=
  let name := if p.startsWith "./" then String.ofList (p.toList.drop 2) else p
  match s.files.lookup name with
  | some text => .ok text
  | none =>
    let start : Place := if p.startsWith "/" then .directory none else .directory (some 0)
    let steps := if p.startsWith "/" then (p.splitOn "/").drop 1 else p.splitOn "/"
    match s.walk start steps with
    | .ok (.file f) => .ok ((s.files.lookup f).getD "")
    | .ok (.directory _) => .error ("read " ++ p ++ ": is a directory")
    | .error .notDirectory => .error ("open " ++ p ++ ": not a directory")
    | .error .missing => .error ("open " ++ p ++ ": no such file or directory")

/-- The boolean words: `1`, `t`, `T`, `true`, `True`, `TRUE` and their opposites. -/
def readBool? (s : String) : Option Bool :=
  if ["1", "t", "T", "true", "True", "TRUE"].contains s then some true
  else if ["0", "f", "F", "false", "False", "FALSE"].contains s then some false
  else none

/-- Applies the environment variables to the settings. -/
def Sources.applyEnv (s : Sources) (c : Config) : Except String Config := do
  let mut c := c
  let listen := s.getenv "MUXCHAN_LISTEN"
  if !listen.isEmpty then c := { c with server.listen := .ofString listen }
  let metrics := s.getenv "MUXCHAN_METRICS"
  if !metrics.isEmpty then
    match readBool? metrics with
    | some b => c := { c with server.metrics := b }
    | none => throw ("MUXCHAN_METRICS: " ++ Text.numberMessage "ParseBool" metrics .malformed)
  let level := s.getenv "MUXCHAN_LOG_LEVEL"
  if !level.isEmpty then c := { c with log.level := .ofString level }
  let dump := s.getenv "MUXCHAN_DUMP"
  if !dump.isEmpty then c := { c with log.dump := .ofString dump }
  let conns := s.getenv "MUXCHAN_MAX_CONNECTIONS"
  if !conns.isEmpty then
    match Text.readInt64 conns.toList with
    | .ok n => c := { c with client.maxConnections := n }
    | .error e => throw ("MUXCHAN_MAX_CONNECTIONS: " ++ Text.numberMessage "Atoi" conns e)
  let proxy := s.getenv "MUXCHAN_PROXY"
  if !proxy.isEmpty then c := { c with client.proxy := .ofString proxy }
  let timeout := s.getenv "MUXCHAN_TIMEOUT"
  if !timeout.isEmpty then
    match Text.readDuration timeout with
    | .ok d => c := { c with client.timeout := d }
    | .error e => throw ("MUXCHAN_TIMEOUT: " ++ e.message timeout)
  return c

/-- Loads the settings from their sources, or the failure that stopped it. -/
def Sources.load (s : Sources) : Except Failure Config := do
  let mut c := defaults
  match s.discover? with
  | none => pure ()
  | some file =>
    match s.readFile file with
    | .error e => throw (Failure.plain ("loading config file " ++ file ++ ": " ++ e))
    | .ok text =>
      match readYaml text c with
      | .ok c' => c := c'
      | .error (.fault e) => throw (Failure.plain ("loading config file " ++ file ++ ": " ++ e))
      | .error stop => throw (decodeFailure stop)
  match s.applyEnv c with
  | .ok c' => c := c'
  | .error e => throw (Failure.plain ("environment: " ++ e))
  match problemsFailure "config validation" c.problems with
  | some f => throw f
  | none => return c

end ChannelMux.Settings
